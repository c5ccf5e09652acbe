import ConfigRegistry.Text.Percent

set_option autoImplicit false

/-!
The target of a request: a path of segments and a query.
-/
namespace ConfigRegistry.Http

open Text (splitAtByte)

structure Target where
  segments : List Bytes
  query : Option Bytes
deriving DecidableEq, Repr

-- Everything from a `#` on is left out, and the query begins after the first `?`.
def Target.parse (target : Bytes) : Target :=
  let visible := target.takeWhile fun byte => byte ≠ 35
  let path := visible.takeWhile fun byte => byte ≠ 63
  let query := match visible.dropWhile fun byte => byte ≠ 63 with
    | [] => none
    | _ :: rest => some rest
  ⟨(splitAtByte 47 path).drop 1, query⟩

end ConfigRegistry.Http
