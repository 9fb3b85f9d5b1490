import GraphGateway.Value.Entries

/-!
# Paths

A path is a list of keys. In text the keys are parted by points and brackets, so `a.b[0]` has the keys
`a`, `b` and `0`.
-/

namespace GraphGateway

namespace Path

def isKeyChar (c : Char) : Bool :=
  c ≠ '.' && c ≠ '[' && c ≠ ']'

private def keysFrom (key : List Char) : List Char → List (List Char)
  | [] => if key.isEmpty then [] else [key.reverse]
  | c :: rest =>
    if isKeyChar c then keysFrom (c :: key) rest
    else if key.isEmpty then keysFrom [] rest
    else key.reverse :: keysFrom [] rest

/-- The keys of a path that is written as text: its longest runs of key characters. -/
def keys (s : String) : List String :=
  (keysFrom [] s.toList).map String.ofList

private theorem keysFrom_point (key before after : List Char) :
    keysFrom key (before ++ '.' :: after) = keysFrom key before ++ keysFrom [] after := by
  induction before generalizing key with
  | nil => cases key <;> rfl
  | cons c rest ih =>
      simp only [List.cons_append, keysFrom, ih]
      split
      · rfl
      · split <;> rfl

theorem keys_append (p q : String) : keys (p ++ "." ++ q) = keys p ++ keys q := by
  simp only [keys, String.toList_append, List.append_assoc]
  show (keysFrom [] (p.toList ++ '.' :: q.toList)).map String.ofList = _
  rw [keysFrom_point, List.map_append]

private theorem keysFrom_whole (key : List Char) {s : List Char} (nonempty : key ≠ [] ∨ s ≠ [])
    (whole : ∀ c ∈ s, isKeyChar c = true) : keysFrom key s = [key.reverse ++ s] := by
  induction s generalizing key with
  | nil => simp [keysFrom, nonempty.resolve_right fun some => some rfl]
  | cons c rest ih =>
      have onward := ih (c :: key) (.inl (List.cons_ne_nil c key))
        fun d member => whole d (List.mem_cons_of_mem c member)
      rw [keysFrom, if_pos (whole c List.mem_cons_self), onward]
      simp

theorem keys_whole {s : String} (nonempty : s.toList ≠ []) (whole : ∀ c ∈ s.toList, isKeyChar c = true) :
    keys s = [s] := by
  rw [keys, keysFrom_whole [] (.inr nonempty) whole]
  simp

end Path

def Store.pathKeys (st : Store) (path : Value) : Except Fault (List String) :=
  match st.look path with
  | .text s => .ok (Path.keys s)
  | v => v.elements.map (·.map st.text)

end GraphGateway
