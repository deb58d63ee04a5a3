import JavaReview.Store.Basic

/-!
Stored flags of rules, one for each name.
-/

namespace JavaReview.Store

/-- The flags with the one of a name set, at the end if the name is new. -/
def putState (name : String) (on : Bool) : List (String × Bool) → List (String × Bool)
  | [] => [(name, on)]
  | (n, b) :: r => if n = name then (name, on) :: r else (n, b) :: putState name on r

/-- The stored flags. -/
def states (s : Store) : Except StoreError (List (String × Bool)) := s.whenOpen (.ok s.ruleStates)

/-- Stores flags. Without any there is nothing to do, not even for a closed store. -/
def saveStates (s : Store) (states : List (String × Bool)) : Except StoreError Store :=
  if states.isEmpty then .ok s
  else
    s.whenWritable (.ok { s with
      ruleStates := states.foldl (fun known e => putState e.1 e.2 known) s.ruleStates })

end JavaReview.Store
