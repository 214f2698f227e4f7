import Mathlib.Data.List.Basic
import Mathlib.Tactic.Lemma

/-!
# Shell-style wildcards

`fnmatch.fnmatch` as the code uses it (on a POSIX system, where names keep their case): `*` is any
run of characters, `?` any one of them, `[…]` one of a set and `[!…]` one outside it. A bracket that
is never closed stands for itself.
-/

namespace Mockdr

/-- One item of a pattern. -/
inductive Glob where
  | star
  | any
  | lit (c : Char)
  | set (negated : Bool) (members : List Char)

/-- Whether a character is in a bracketed set, whose members are characters and ranges `a-z`. -/
def inSet (c : Char) : List Char → Bool
  | lo :: '-' :: hi :: rest => (lo ≤ c && c ≤ hi) || inSet c rest
  | x :: rest => x = c || inSet c rest
  | [] => false

/-- The members of a set up to the bracket that closes it, and the pattern after it. A bracket right
    at the start is a member. -/
def closeSet (p : List Char) : Option (List Char × List Char) :=
  let (first, rest) := match p with
    | ']' :: rest => ([']'], rest)
    | rest => ([], rest)
  match rest.dropWhile (· ≠ ']') with
  | [] => none
  | _ :: after => some (first ++ rest.takeWhile (· ≠ ']'), after)

/-- Read a pattern; the fuel is its length. -/
def globs : Nat → List Char → List Glob
  | 0, _ => []
  | _, [] => []
  | n + 1, '*' :: p => .star :: globs n p
  | n + 1, '?' :: p => .any :: globs n p
  | n + 1, '[' :: '!' :: p =>
    match closeSet p with
    | some (members, after) => .set true members :: globs n after
    | none => .lit '[' :: globs n ('!' :: p)
  | n + 1, '[' :: p =>
    match closeSet p with
    | some (members, after) => .set false members :: globs n after
    | none => .lit '[' :: globs n p
  | n + 1, c :: p => .lit c :: globs n p

/-- Whether a whole string matches a pattern. -/
def globMatch : List Glob → List Char → Bool
  | [], s => s.isEmpty
  | .star :: g, s => s.tails.any (globMatch g)
  | .any :: g, s => match s with
    | [] => false
    | _ :: s => globMatch g s
  | .lit c :: g, s => match s with
    | [] => false
    | d :: s => c = d && globMatch g s
  | .set negated members :: g, s => match s with
    | [] => false
    | d :: s => (inSet d members != negated) && globMatch g s

/-- `fnmatch(name, pattern)`. -/
def fnmatch (name pattern : String) : Bool :=
  globMatch (globs pattern.toList.length pattern.toList) name.toList

example : fnmatch "logs-endpoint" "logs-*" = true := by decide
example : fnmatch "a]b" "a[]x]b" = true := by decide

end Mockdr
