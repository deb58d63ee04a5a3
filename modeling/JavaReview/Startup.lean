import JavaReview.Config
import JavaReview.RulePack
import JavaReview.Store.RuleStates

/-!
What a program starts with: the built-in rules and those of the configured packs, with the flags that
the settings and the store give them. A stored flag counts more than a setting.
-/

namespace JavaReview

/-- Why a program cannot start. -/
inductive StartupError where
  | pack (path : String) (cause : PackError)
  | ruleStates (cause : StoreError)

namespace StartupError

/-- The text of an error. -/
def message : StartupError → String
  | pack path cause => "rule pack " ++ path ++ ": " ++ cause.message
  | ruleStates cause => "load rule states: " ++ cause.message

end StartupError

namespace Registry

/-- The registry with the rules of packs, in order. -/
def withPacks (r : Registry) (tree : FileTree) : List String → Except StartupError Registry
  | [] => .ok r
  | path :: paths =>
    match RulePack.load r tree path with
    | (_, _, some e) => .error (.pack path e)
    | (r', _, none) => r'.withPacks tree paths

/-- The registry that a program starts with on a store. -/
def ofStore (tree : FileTree) (a : Config.Analysis) (store : Store) : Except StartupError Registry := do
  let r ← default.withPacks tree (a.rulePacks.getD [])
  let stored ← store.states.mapError .ruleStates
  return r.apply { disabled := a.disabledRules.getD [], overrides := stored }

end Registry

end JavaReview
