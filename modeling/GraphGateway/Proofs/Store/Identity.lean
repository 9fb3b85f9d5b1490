import GraphGateway.Proofs.Path.Contents
import GraphGateway.Proofs.Store.Individuation
import GraphGateway.Template.Scope

/-!
# Values as themselves

A value that is moved into a store is a reference, a scalar or something that the host supplies. Once scalars are told
apart, each of them is one and the same as itself, and so equal to itself unless a number in it is not.
-/

namespace GraphGateway

namespace Store

variable {st : Store} {v : Value}

/-- Whether a value is the same as itself once it is told apart. -/
def Tellable (v : Value) : Prop :=
  v.isSingular = true ∨ identical v v = true

theorem tellable_of_isCommon (same : v.isCommon = true → identical v v = true) (singular : v.isSingular = !v.isCommon) :
    Tellable v := by
  cases common : v.isCommon with
  | true => exact .inr (same common)
  | false => exact .inl (by rw [singular, common]; rfl)

theorem tellable_load (st : Store) (v : Value) : Tellable (st.load v).1 := by
  cases v with
  | int n => exact tellable_of_isCommon (v := .int n) (fun one => by simp [identical, one]) rfl
  | text s => exact tellable_of_isCommon (v := .text s) (fun one => by simp [identical, one]) rfl
  | bytes bs => exact tellable_of_isCommon (v := .bytes bs) (fun one => by simp [identical, one]) rfl
  | real x =>
      cases x with
      | nan => exact .inr (by simp [load, place, identical])
      | finite | infinite => exact .inl rfl
  | imaginary | illFormed | cut => exact .inl rfl
  | _ => exact .inr (by simp [load, place, identical])

theorem gives_identical (base : Nat) (tellable : Tellable v) :
    Gives base (single v) fun _ w => identical w w = true := by
  intro st _
  by_cases singular : v.isSingular = true
  · have run : (single v).run st = (.shared st.cells.size, (st.alloc v).2) := by
      rw [single, if_pos singular]
      rfl
    rw [run]
    exact ⟨grows_alloc st v, by simp [identical]⟩
  · rw [single, if_neg singular]
    exact ⟨.refl st, tellable.resolve_left singular⟩

theorem gives_identical_entries (base : Nat) {fields : List (String × Value)} (tellable : ∀ f ∈ fields, Tellable f.2) :
    Gives base (fields.mapM fun f => return (f.1, ← single f.2)) fun _ told =>
      ∀ f ∈ told, identical f.2 f.2 = true := by
  induction fields with
  | nil =>
      rw [List.mapM_nil]
      exact .pure fun _ => nofun
  | cons f rest ih =>
      obtain ⟨first, others⟩ := List.forall_mem_cons.mp tellable
      rw [List.mapM_cons]
      have lasts : ∀ {α : Type} (P : α → Prop), Lasts fun _ a => P a := fun P _ _ _ _ holds => holds
      have told : Gives base (do return (f.1, ← single f.2)) fun _ g => identical g.2 g.2 = true :=
        (gives_identical base first).bind (lasts fun w => identical w w = true) fun w => .pure fun _ same => same
      refine told.bind (lasts fun g : String × Value => identical g.2 g.2 = true) fun g => ?_
      refine (ih others).bind (lasts fun told : List (String × Value) => ∀ f ∈ told, identical f.2 f.2 = true) ?_
      intro rest
      exact .pure fun _ others same => List.forall_mem_cons.mpr ⟨same, others⟩

theorem individuate_identical (st : Store) {beside : List (String × Value)} (tellable : ∀ f ∈ beside, Tellable f.2) :
    ∀ f ∈ (st.individuate beside).1, identical f.2 f.2 = true :=
  (gives_identical_entries 0 tellable _ (Nat.zero_le _)).2

/-- Whether a value equals nothing but itself, or a method of the same object. -/
def isOnlyItself : Value → Bool
  | .other _ | .made .. | .method .. | .error .. | .function .. | .factory .. => true
  | _ => false

theorem equal_of_identical (same : identical v v = true) (only : isOnlyItself (st.look v) = true) :
    st.equal v v = true := by
  obtain ⟨n, bound⟩ : ∃ n, st.depth v + st.depth v = n + 1 :=
    Nat.exists_eq_succ_of_ne_zero (by have := st.depth_le v; omega)
  rw [equal, bound, equalWithin]
  generalize st.look v = contents at only
  cases contents with
  | other | made | method | error | function | factory => simp only [same, Bool.true_or]
  | _ => cases only

end Store

theorem Request.identical_load (request : Request) (st : Store) :
    ∀ part ∈ ((request.load st).2.individuate (request.load st).1.names).1, Store.identical part.2 part.2 = true := by
  refine Store.individuate_identical _ fun part member => ?_
  simp only [Request.names, List.mem_cons, List.not_mem_nil, or_false] at member
  rcases member with rfl | rfl | rfl | rfl <;> exact Store.tellable_load _ _

end GraphGateway
