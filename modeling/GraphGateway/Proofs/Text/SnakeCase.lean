import GraphGateway.Proofs.Text.Lowering
import GraphGateway.Proofs.Text.Spelling
import Mathlib.Data.List.Chain

/-!
# Names in snake case

Whatever text a name is, in snake case it has no capitals, and its words are parted by single underscores. The texts of
this form that lower case leaves alone are the ones that are their own snake case.
-/

namespace GraphGateway.Text

/-- Whether two characters are not both underscores. -/
def Parted (a b : Char) : Prop :=
  ¬ (a = '_' ∧ b = '_')

/-- A text without capitals of ASCII whose words are parted by single underscores, and by nothing else. -/
structure SnakeCase (s : List Char) : Prop where
  small : ∀ c ∈ s, isCapital c = false
  solid : ∀ c ∈ s, isBlank c = false ∧ c ≠ '-' ∧ c ≠ '.'
  single : s.IsChain Parted
  front : s.head? ≠ some '_'
  back : s.getLast? ≠ some '_'

theorem parted_of_ne_left {a b : Char} (other : a ≠ '_') : Parted a b :=
  fun both => other both.1

theorem isSeparator_iff {c : Char} : isSeparator c = true ↔ c = '_' ∨ ¬ (isBlank c = false ∧ c ≠ '-' ∧ c ≠ '.') := by
  simp only [isSeparator, Bool.or_eq_true, decide_eq_true_eq]
  cases isBlank c
  · simp
    tauto
  · simp

section Joining

variable {s : List Char}

theorem eq_of_isSeparator_joinSeparators {inRun : Bool} {c : Char} (member : c ∈ joinSeparators inRun s)
    (separator : isSeparator c = true) : c = '_' := by
  induction s generalizing inRun with
  | nil => cases member
  | cons d rest ih =>
      rw [joinSeparators] at member
      split at member
      · split at member
        · exact ih member
        · rcases List.mem_cons.mp member with rfl | later
          · rfl
          · exact ih later
      · rename_i solid
        rcases List.mem_cons.mp member with rfl | later
        · exact absurd separator solid
        · exact ih later

theorem isChain_joinSeparators (inRun : Bool) (s : List Char) :
    (joinSeparators inRun s).IsChain Parted ∧ (inRun = true → (joinSeparators inRun s).head? ≠ some '_') := by
  induction s generalizing inRun with
  | nil => exact ⟨.nil, fun _ => nofun⟩
  | cons c rest ih =>
      rw [joinSeparators]
      split
      · split
        · exact ⟨(ih true).1, fun _ => (ih true).2 rfl⟩
        · rename_i first
          refine ⟨List.isChain_cons.mpr ⟨?_, (ih true).1⟩, fun running => absurd running first⟩
          rintro d next ⟨-, rfl⟩
          exact (ih true).2 rfl next
      · rename_i solid
        have other : c ≠ '_' := by
          rintro rfl
          exact solid (by decide)
        exact ⟨List.isChain_cons.mpr ⟨fun _ _ => parted_of_ne_left other, (ih false).1⟩,
          fun _ first => other (Option.some.inj first)⟩

theorem joinSeparators_of_isChain {inRun : Bool} (only : ∀ c ∈ s, isSeparator c = true → c = '_')
    (single : s.IsChain Parted) (front : inRun = true → s.head? ≠ some '_') : joinSeparators inRun s = s := by
  induction s generalizing inRun with
  | nil => rfl
  | cons c rest ih =>
      have later : ∀ d ∈ rest, isSeparator d = true → d = '_' := fun d member => only d (List.mem_cons_of_mem c member)
      rw [joinSeparators]
      split
      · rename_i separator
        obtain rfl := only c List.mem_cons_self separator
        have next : rest.head? ≠ some '_' := fun next => single.rel_head? next ⟨rfl, rfl⟩
        rw [if_neg (fun running => front running rfl), ih later single.tail fun _ => next]
      · rw [@ih false later single.tail fun running => absurd running Bool.false_ne_true]

end Joining

section Trimming

variable {p : Char → Bool} {s : List Char}

theorem head?_dropWhile_ne {c : Char} (bad : p c = true) : (s.dropWhile p).head? ≠ some c := by
  intro first
  have kept := List.head?_dropWhile_not p s
  rw [first] at kept
  exact absurd (bad.symm.trans kept) nofun

theorem trimBy_isInfix : trimBy p s <:+: s := by
  have back := (List.dropWhile_suffix p (l := (s.dropWhile p).reverse)).reverse
  rw [List.reverse_reverse] at back
  exact back.isInfix.trans (List.dropWhile_suffix p).isInfix

theorem getLast?_trimBy_ne {c : Char} (bad : p c = true) : (trimBy p s).getLast? ≠ some c := by
  rw [trimBy, List.getLast?_reverse]
  exact head?_dropWhile_ne bad

theorem head?_trimBy_ne {c : Char} (bad : p c = true) : (trimBy p s).head? ≠ some c := by
  rw [trimBy, List.head?_reverse]
  intro last
  obtain ⟨before, whole⟩ := List.dropWhile_suffix p (l := (s.dropWhile p).reverse)
  have first : (s.dropWhile p).reverse.getLast? = some c := by
    rw [← whole, List.getLast?_append, last, Option.some_or]
  rw [List.getLast?_reverse] at first
  exact head?_dropWhile_ne bad first

end Trimming

/-- Whether a text comes from another one by spelling out what is no underscore. -/
inductive Respells : List Char → List Char → Prop
  | nil : Respells [] []
  | underscore {s t : List Char} (onward : Respells s t) : Respells ('_' :: s) ('_' :: t)
  | other {s t part : List Char} {c : Char} (other : c ≠ '_') (some : part ≠ []) (free : '_' ∉ part)
      (onward : Respells s t) : Respells (c :: s) (part ++ t)

namespace Respells

variable {s t : List Char}

theorem eq_nil (respells : Respells s []) : s = [] := by
  generalize none : [] = t at respells
  cases respells with
  | nil => rfl
  | underscore => cases none
  | other _ some => exact absurd (List.append_eq_nil_iff.mp none.symm).1 some

theorem head? (respells : Respells s t) (first : t.head? = some '_') : s.head? = some '_' := by
  cases respells with
  | nil => cases first
  | underscore => rfl
  | @other _ _ part _ _ some free =>
      rw [List.head?_append_of_ne_nil _ some] at first
      exact absurd (List.mem_of_head? first) free

theorem getLast? (respells : Respells s t) (last : t.getLast? = some '_') : s.getLast? = some '_' := by
  induction respells with
  | nil => cases last
  | @underscore s t onward ih =>
      cases ends : t.getLast? with
      | none =>
          rw [List.getLast?_eq_none_iff.mp ends] at onward
          rw [onward.eq_nil]
          rfl
      | some d =>
          rw [List.getLast?_cons, ends, Option.getD_some] at last
          rw [List.getLast?_cons, ih (ends.trans last), Option.getD_some]
  | @other s t part c _ _ free onward ih =>
      rw [List.getLast?_append] at last
      cases ends : t.getLast? with
      | none =>
          rw [ends, Option.none_or] at last
          exact absurd (List.mem_of_getLast? last) free
      | some d =>
          rw [ends, Option.some_or] at last
          rw [List.getLast?_cons, ih (ends.trans last), Option.getD_some]

theorem isChain (respells : Respells s t) (single : s.IsChain Parted) : t.IsChain Parted := by
  induction respells with
  | nil => exact .nil
  | @underscore s t onward ih =>
      refine List.isChain_cons.mpr ⟨?_, ih single.tail⟩
      rintro d next ⟨-, rfl⟩
      exact single.rel_head? (onward.head? next) ⟨rfl, rfl⟩
  | @other s t part c _ _ free onward ih =>
      have apart : ∀ d ∈ part, d ≠ '_' := fun d member same => free (same ▸ member)
      have inside : part.Pairwise Parted :=
        List.pairwise_of_forall_mem_list fun d member _ _ => parted_of_ne_left (apart d member)
      refine inside.isChain.append (ih single.tail) fun d last _ _ => ?_
      exact parted_of_ne_left (apart d (List.mem_of_getLast? last))

end Respells

theorem respells_lower (s : List Char) : Respells s (lower s) := by
  refine lower_induction .nil ?_ s
  intro before c after rest onward
  by_cases underscore : c = '_'
  · have kept : IsLowered '_' := isLowered_of (by decide) (by decide) (by decide +kernel)
    rw [underscore, kept before after]
    exact .underscore onward
  · refine .other underscore ?_ (fun member => underscore ((lowerChar_plain member).2.2 (by decide)).symm) onward
    rcases lowerChar_cases before c after with ⟨-, spelled⟩ | ⟨_, _, d, _, moved⟩ | ⟨_, same⟩
    · exact (by decide : ∀ part ∈ [['ς'], ['σ'], ['i', Char.ofNat 0x307]], part ≠ []) _ spelled
    · rw [moved]
      exact nofun
    · rw [same]
      exact nofun

/-- Whatever a name is, its snake case has the form of one. -/
theorem snakeCase_snake (s : List Char) : SnakeCase (snake s) := by
  have whole := trimBy_isInfix (p := (· = '_')) (s := joinSeparators false (markWords none s))
  have single := List.IsChain.infix (isChain_joinSeparators false (markWords none s)).1 whole
  have respells := respells_lower (trimBy (· = '_') (joinSeparators false (markWords none s)))
  refine ⟨fun c => isCapital_lower, fun c member => ?_, ?_, ?_, ?_⟩
  · by_cases separator : isSeparator c = true
    · have before := whole.subset (mem_of_isSeparator_lower member separator)
      rw [eq_of_isSeparator_joinSeparators before separator]
      decide
    · exact Decidable.byContradiction fun other => separator (isSeparator_iff.mpr (.inr other))
  · exact respells.isChain single
  · exact fun first => head?_trimBy_ne (decide_eq_true rfl) (respells.head? first)
  · exact fun last => getLast?_trimBy_ne (decide_eq_true rfl) (respells.getLast? last)

namespace SnakeCase

variable {s : List Char}

theorem trimBy_eq (form : SnakeCase s) : trimBy (· = '_') s = s := by
  cases s with
  | nil => rfl
  | cons c rest =>
      have filled := List.cons_ne_nil c rest
      refine trimBy_of_ends rfl (List.dropLast_concat_getLast filled).symm ?_ ?_
      · exact decide_eq_false fun first => form.front (congrArg some first)
      · exact decide_eq_false fun last => form.back ((List.getLast?_eq_some_getLast filled).trans (congrArg some last))

theorem snake_eq (form : SnakeCase s) (lowered : lower s = s) : snake s = s := by
  have only : ∀ c ∈ s, isSeparator c = true → c = '_' := by
    intro c member separator
    exact (isSeparator_iff.mp separator).resolve_right (not_not_intro (form.solid c member))
  have unmarked := @markWords_plain [] none s form.small
  rw [List.append_nil, markWords, List.append_nil] at unmarked
  have joined : joinSeparators false s = s :=
    joinSeparators_of_isChain only form.single fun running => absurd running Bool.false_ne_true
  rw [snake, unmarked, joined, form.trimBy_eq, lowered]

end SnakeCase

/-- Snake case is a normal form: whatever text it is made of has the form, and does not change if it is put in snake case
again. The texts that do not change are exactly those of the form that lower case leaves alone. -/
theorem snake_normalizes (s : List Char) :
    SnakeCase (snake s) ∧ snake (snake s) = snake s ∧ (snake s = s ↔ SnakeCase s ∧ lower s = s) := by
  have again : snake (snake s) = snake s := (snakeCase_snake s).snake_eq (lower_lower _)
  refine ⟨snakeCase_snake s, again, ?_, fun ⟨form, lowered⟩ => form.snake_eq lowered⟩
  intro same
  refine ⟨same ▸ snakeCase_snake s, ?_⟩
  calc lower s = lower (snake s) := by rw [same]
    _ = snake s := lower_lower _
    _ = s := same

/-- A Kelvin sign becomes a letter of ASCII, but is none where words are told apart. -/
example : snake "a\u212AB İ".toList = "akb_i\u0307".toList := by decide +kernel

end GraphGateway.Text
