import GraphGateway.Proofs.Resolver.ArgumentSharing

/-!
# Requests to one method call

A request builds its arguments and makes its calls without giving way, and from there on changes no
container. So whatever the order in which requests wait and go on, the containers see them one after the
other, as they build their arguments. They share the description of the arguments, and their landings in it
are all that one of them can do to another.
-/

namespace GraphGateway.Resolver

namespace MethodCall

variable (host : Host) (environment : List (String × String)) (d : MethodCall)

/-- The landings of a request, which has none if its own arguments are refused. -/
def landings (st : Store) (request : Request) : List Landing :=
  match checkNames st "_method_call_resolver.<locals>.resolve" ["root", "info"] request.args with
  | .ok () => argumentLandings environment request st d.args
  | .error _ => []

/-- The shared containers after some requests, in the order in which they build their arguments. -/
def serve (st : Store) : List (Request × FieldInfo) → Store
  | [] => st
  | (request, field) :: rest => serve (d.resolve host environment st request field).store rest

/-- The landings of some requests, in the order in which they build their arguments. -/
def serveLandings (st : Store) : List (Request × FieldInfo) → List Landing
  | [] => []
  | (request, field) :: rest =>
    d.landings environment st request ++ serveLandings (d.resolve host environment st request field).store rest

theorem answer_store (st : Store) (request : Request) (field : FieldInfo) :
    (d.answer host environment st request field).store =
      (buildArguments host environment st request d.args).store := by
  simp only [answer]
  split
  · rfl
  · split <;> rfl

theorem resolve_changes (st : Store) (request : Request) (field : FieldInfo) :
    st.ChangesBy (d.landings environment st request) (d.resolve host environment st request field).store := by
  simp only [resolve, landings]
  cases checkNames st "_method_call_resolver.<locals>.resolve" ["root", "info"] request.args with
  | error fault => exact .refl st
  | ok accepted =>
      simp only [answer_store]
      exact buildArguments_changes environment request host st d.args

theorem serve_changes (st : Store) (requests : List (Request × FieldInfo)) :
    st.ChangesBy (d.serveLandings host environment st requests) (d.serve host environment st requests) := by
  induction requests generalizing st with
  | nil => exact .refl st
  | cons r rest ih =>
      obtain ⟨request, field⟩ := r
      exact (d.resolve_changes host environment st request field).trans (ih _)

/-- Requests keep a value exactly if their landings in what it leads to undo each other. -/
theorem serve_keeps_iff (st : Store) (requests : List (Request × FieldInfo)) (v : Value) :
    st.Keeps v (d.serve host environment st requests) ↔
      ∀ h, st.Reaches v h →
        Landing.changes (d.serveLandings host environment st requests) h (st.get h) = st.get h := by
  refine forall_congr' fun h => forall_congr' fun reached => ?_
  rw [(d.serve_changes host environment st requests).contents h reached.inside]

/-- The description of the arguments outlasts the requests to it exactly if their landings in it undo each
other, and what a request has handed to its method stays as it was handed exactly if the landings of the
requests after it do. -/
theorem requests_isolated_iff (st : Store) (before after : List (Request × FieldInfo)) (request : Request)
    (field : FieldInfo) :
    (st.Keeps d.args (d.serve host environment st (before ++ (request, field) :: after)) ↔
      ∀ h, st.Reaches d.args h →
        Landing.changes (d.serveLandings host environment st (before ++ (request, field) :: after)) h (st.get h) =
          st.get h) ∧
    let handed := d.resolve host environment (d.serve host environment st before) request field
    ((∀ call ∈ handed.calls,
        handed.store.Keeps call.2.arguments (d.serve host environment handed.store after)) ↔
      ∀ call ∈ handed.calls, ∀ h, handed.store.Reaches call.2.arguments h →
        Landing.changes (d.serveLandings host environment handed.store after) h (handed.store.get h) =
          handed.store.get h) := by
  refine ⟨d.serve_keeps_iff host environment st _ d.args, ?_⟩
  intro handed
  refine forall_congr' fun call => forall_congr' fun made => ?_
  exact d.serve_keeps_iff host environment handed.store after call.2.arguments

end MethodCall

/-- A description that puts a tag into a filter of its own. -/
def tagging : MethodCall where
  type := .text "Query"
  field := .text "orders"
  targetSource := .text "Orders"
  targetMethod := .text "find"
  args := .shared 0
  resultSelectedFields := .null
  resultSelectionSet := .null
  resultDepth := .null
  returnData := .null
  requiredSelectionSet := .null

def tags : Store where
  cells := #[.map [(.text "filter", .shared 1), (.text "filter.tag", .text "{args.tag}")], .map []]

def asking (tag : String) : Request where
  root := .null
  args := .map [(.text "tag", .text tag)]
  context := .map [(.text "Orders", .map [(.text "api", .map [(.text "find", .function 0 "find")])])]
  info := .null

def orders : FieldInfo where
  name := ⟨"orders", none⟩
  type := none

def tagOf (filter : Value) : String :=
  ((filter.entries?.getD []).map fun e => Store.empty.text e.2).headD ""

/-- The second of two requests puts its tag into what the first one has handed to the method, by way of the
description that they share. -/
theorem tagging_not_isolated :
    ¬ tags.Keeps tagging.args
      (tagging.serve Host.empty [] tags [(asking "old", orders), (asking "new", orders)]) ∧
    let handed := tagging.resolve Host.empty [] tags (asking "old") orders
    ¬ ∀ call ∈ handed.calls,
      handed.store.Keeps call.2.arguments (tagging.serve Host.empty [] handed.store [(asking "new", orders)]) := by
  have isolated := tagging.requests_isolated_iff Host.empty [] tags [] [(asking "new", orders)] (asking "old") orders
  constructor
  · intro kept
    have args : tags.Reaches tagging.args 0 := .direct (by decide) (by decide)
    have filter : tags.Reaches tagging.args 1 := args.onward (by decide) (by decide)
    exact absurd (congrArg tagOf (isolated.1.mp kept 1 filter)) (by decide +kernel)
  · intro handed kept
    have shown : handed.calls.any (fun call => call.2.arguments.handles.contains 1) = true := by decide +kernel
    obtain ⟨call, made, holds⟩ := List.any_eq_true.mp shown
    have filter : handed.store.Reaches call.2.arguments 1 :=
      .direct (List.contains_iff_mem.mp holds) (by decide +kernel)
    exact absurd (congrArg tagOf (isolated.2.mp kept call made 1 filter)) (by decide +kernel)

end GraphGateway.Resolver
