import GraphGateway.Fault

/-!
# Equality and order of values

Numbers of every kind are equal and ordered by their exact values. Sequences and mappings are equal by
contents, where an element is equal to itself whatever its kind; mappings do not compare their order.
Errors, functions and objects of which nothing more is known are equal only to themselves; an error of a field
equals one that says the same, and a method equals one of the same name and object.
-/

namespace GraphGateway

open Number

namespace Value

def number? : Value → Option Binary64.Exact
  | .bool b => some (.ratio (if b then 1 else 0) 1)
  | .int n => some (.ratio n 1)
  | .real x => x.toExact
  | _ => none

def isNumber : Value → Bool
  | .bool _ | .int _ | .real _ => true
  | _ => false

def lookup (key : String) : List (Value × Value) → Option Value
  | [] => none
  | (.text k, v) :: rest => if k = key then some v else lookup key rest
  | _ :: rest => lookup key rest

mutual

/-- The kind of the part of a value that keeps it from being a key. -/
def unhashable? : Value → Option String
  | .list _ => some "list"
  | .map _ => some "dict"
  | .record _ => some "types.SimpleNamespace"
  | .external .. => some "ExternalObject"
  | .environment _ => some "_Environ"
  | .cut container => unhashable? container
  | .tuple items => unhashableItem? items
  | _ => none

def unhashableItem? : List Value → Option String
  | [] => none
  | v :: rest => (unhashable? v).or (unhashableItem? rest)

end

end Value

/-- The comparisons by order. -/
inductive Order where
  | lt
  | le
  | gt
  | ge
  deriving Repr, DecidableEq

namespace Order

def symbol : Order → String
  | .lt => "<"
  | .le => "<="
  | .gt => ">"
  | .ge => ">="

def holds : Order → Ordering → Bool
  | .lt, o => o = .lt
  | .le, o => o ≠ .gt
  | .gt, o => o = .gt
  | .ge, o => o ≠ .lt

end Order

namespace Store

/-- Whether two values are one and the same: one reference to a container of the store, which every value has that
is told apart by identity there, or to a part of an error, one function or class, the variables of the process, or
one of the scalars of which there is one of each value. -/
def identical : Value → Value → Bool
  | .shared h, .shared k => h = k
  | .part h p, .part k q => h = k && p = q
  | .null, .null => true
  | .ellipsis, .ellipsis => true
  | .bool a, .bool b => a = b
  | .int a, .int b => a = b && (Value.int a).isCommon
  | .text a, .text b => a = b && (Value.text a).isCommon
  | .bytes a, .bytes b => a = b && (Value.bytes a).isCommon
  | .function a _, .function b _ => a = b
  | .factory a _ _, .factory b _ _ => a = b
  | .environment a, .environment b => a = b
  | _, _ => false

private def allSame (same : Value → Value → Bool) : List Value → List Value → Bool
  | [], [] => true
  | a :: as, b :: bs => same a b && allSame same as bs
  | _, _ => false

private def entriesSame (sameKey same : Value → Value → Bool) (xs ys : List (Value × Value)) : Bool :=
  xs.length = ys.length && xs.all fun x =>
    match ys.find? fun y => sameKey y.1 x.1 with
    | some y => same x.2 y.2
    | none => false

private def textEntries (fields : List (String × Value)) : List (Value × Value) :=
  fields.map fun f => (.text f.1, f.2)

/-- Whether an error of a field equals a mapping: the mapping gives its message, and nothing that it does
not have. The error that it stands for is not compared. -/
private def fieldErrorIs (equal : Value → Value → Bool) (message : String) (extensions : Value)
    (ys : List (Value × Value)) : Bool :=
  (Value.lookup "message" ys).isSome && ys.all fun y =>
    match y.1 with
    | .text "message" => equal (.text message) y.2
    | .text "extensions" => equal extensions y.2
    | .text "original_error" => true
    | .text slot => ["nodes", "source", "positions", "locations", "path"].contains slot && equal .null y.2
    | _ => false

def numbersEqual (a b : Value) : Bool :=
  match a, b with
  | .imaginary x, .imaginary y =>
    match x.toExact, y.toExact with
    | some p, some q => p.compare q = .eq
    | _, _ => false
  | .imaginary x, b => x.isZero && (match b.number? with | some q => q.compare (.ratio 0 1) = .eq | none => false)
  | a, .imaginary y => y.isZero && (match a.number? with | some p => p.compare (.ratio 0 1) = .eq | none => false)
  | a, b =>
    match a.number?, b.number? with
    | some p, some q => p.compare q = .eq
    | _, _ => false

/-- Equality of values that nest no deeper than a bound. Keys are equal as other values are, but an error
is a key equal only to itself. -/
def equalWithin (st : Store) (asKeys : Bool) : Nat → Value → Value → Bool
  | 0, _, _ => false
  | n + 1, a, b =>
    let equal := equalWithin st asKeys n
    let same := fun x y => identical x y || equal x y
    let sameKey := fun x y => identical x y || equalWithin st true n x y
    match st.look a, st.look b with
    | .null, .null => true
    | .ellipsis, .ellipsis => true
    | .text s, .text t => s = t
    | .illFormed s, .illFormed t => s = t
    | .bytes s, .bytes t => s = t
    | .list xs, .list ys => identical a b || allSame same xs ys
    | .tuple xs, .tuple ys => identical a b || allSame same xs ys
    | .record xs, .record ys =>
      identical a b || entriesSame sameKey same (textEntries xs) (textEntries ys)
    | .fieldError m _ e, .fieldError m' _ e' =>
      if asKeys then identical a b else m = m' && equal e e'
    | .fieldError m _ e, .map ys => fieldErrorIs equal m e ys
    | .map xs, .fieldError m _ e => fieldErrorIs equal m e xs
    | .error .., .error .. => identical a b
    | .function .., .function .. => identical a b
    | .factory .., .factory .. => identical a b
    | .made .., .made .. => identical a b
    | .other _, .other _ => identical a b
    | .method o m, .method o' m' => identical a b || (m = m' && identical o o')
    | x, y =>
      match x.entries?, y.entries? with
      | some xs, some ys => identical a b || entriesSame sameKey same xs ys
      | _, _ => numbersEqual x y

private theorem allSame_of_getD (same : Value → Value → Bool) {xs ys : List Value}
    (length : xs.length = ys.length)
    (each : ∀ i < xs.length, same (xs[i]?.getD .null) (ys[i]?.getD .null) = true) : allSame same xs ys = true := by
  induction xs generalizing ys with
  | nil =>
      obtain rfl := List.eq_nil_of_length_eq_zero length.symm
      rfl
  | cons x xs ih =>
      cases ys with
      | nil => cases length
      | cons y ys =>
          have first : same x y = true := each 0 (Nat.zero_lt_succ _)
          have others := ih (Nat.succ.inj length) fun i inside => each (i + 1) (Nat.succ_lt_succ inside)
          rw [allSame, first, others]
          rfl

/-- Lists of equal length whose items are equal are equal. -/
theorem equalWithin_lists {st : Store} {asKeys : Bool} {n : Nat} {xs ys : List Value} (length : xs.length = ys.length)
    (each : ∀ i < xs.length, (identical (xs[i]?.getD .null) (ys[i]?.getD .null) ||
      st.equalWithin asKeys n (xs[i]?.getD .null) (ys[i]?.getD .null)) = true) :
    st.equalWithin asKeys (n + 1) (.list xs) (.list ys) = true := by
  have all := allSame_of_getD (fun x y => identical x y || st.equalWithin asKeys n x y) length each
  simp only [equalWithin, look, all, Bool.or_true]

/-- Mappings with as many entries as each other are equal if each entry of the first one has an equal value under the
same key of the other. -/
theorem equalWithin_maps {st : Store} {asKeys : Bool} {n : Nat} {xs ys : List (Value × Value)}
    (length : xs.length = ys.length)
    (each : ∀ x ∈ xs, ∃ y, (ys.find? fun y => identical y.1 x.1 || st.equalWithin true n y.1 x.1) = some y ∧
      (identical x.2 y.2 || st.equalWithin asKeys n x.2 y.2) = true) :
    st.equalWithin asKeys (n + 1) (.map xs) (.map ys) = true := by
  have all : ∀ x ∈ xs, (match ys.find? fun y => identical y.1 x.1 || st.equalWithin true n y.1 x.1 with
      | some y => identical x.2 y.2 || st.equalWithin asKeys n x.2 y.2
      | none => false) = true := by
    intro x member
    obtain ⟨y, found, same⟩ := each x member
    rw [found]
    exact same
  simp only [equalWithin, look, Value.entries?, entriesSame, List.all_eq_true.mpr all, length, decide_true,
    Bool.and_true, Bool.or_true]

def equal (st : Store) (a b : Value) : Bool :=
  st.equalWithin false (st.depth a + st.depth b) a b

def same (st : Store) (a b : Value) : Bool :=
  identical a b || st.equal a b

def sameKey (st : Store) (a b : Value) : Bool :=
  identical a b || st.equalWithin true (st.depth a + st.depth b) a b

/-- Order by the first numbers that differ. -/
private def codesOrder : List Nat → List Nat → Ordering
  | [], [] => .eq
  | [], _ => .lt
  | _, [] => .gt
  | x :: xs, y :: ys => (compare x y).then (codesOrder xs ys)

private def bytesOrder (a b : List UInt8) : Ordering :=
  codesOrder (a.map (·.toNat)) (b.map (·.toNat))

/-- Drop the elements on which two sequences agree. -/
private def dropSame (same : Value → Value → Bool) : List Value → List Value → List Value × List Value
  | a :: as, b :: bs => if same a b then dropSame same as bs else (a :: as, b :: bs)
  | as, bs => (as, bs)

/-- Order of values that nest no deeper than a bound. -/
def orderedWithin (st : Store) (order : Order) : Nat → Value → Value → Except Fault Bool
  | 0, _, _ => .error .nestedTooDeep
  | n + 1, a, b =>
    let sequences := fun xs ys =>
      match dropSame st.same xs ys with
      | (x :: _, y :: _) => orderedWithin st order n x y
      | (xs, ys) => .ok (order.holds (compare xs.length ys.length))
    match st.look a, st.look b with
    | .text s, .text t => .ok (order.holds (compare s t))
    | .bytes s, .bytes t => .ok (order.holds (bytesOrder s t))
    | .list xs, .list ys => sequences xs ys
    | .tuple xs, .tuple ys => sequences xs ys
    | x, y =>
      if x.isNumber && y.isNumber then
        match x.number?, y.number? with
        | some p, some q => .ok (order.holds (p.compare q))
        | _, _ => .ok false
      else
        match x.codes?, y.codes? with
        | some p, some q => .ok (order.holds (codesOrder p q))
        | _, _ => .error (.misuse (.notOrdered order.symbol x.kind y.kind))

/-- Whether one value stands in an order to another. -/
def ordered (st : Store) (order : Order) (a b : Value) : Except Fault Bool :=
  st.orderedWithin order (st.depth a + st.depth b) a b

end Store

end GraphGateway
