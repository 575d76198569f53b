import Dossier.Number.Binary64

/-! # TOML values

Values of the configuration language TOML. Points in time are kept as their text.
-/

namespace Dossier

inductive Toml where
  | text (s : String)
  | whole (n : Int)
  | real (x : Number.Binary64)
  | bool (b : Bool)
  | moment (s : String)
  | array (items : List Toml)
  | table (members : List (String × Toml))
  deriving Repr, Inhabited

end Dossier
