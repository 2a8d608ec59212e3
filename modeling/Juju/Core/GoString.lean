import Mathlib.Data.List.Basic

/-!
# Go strings as character lists

The Azure provider builds every name it uses by concatenation
(`getEnvPrefix`, `deploymentNameV2`, the `%s-%s` instance ids) and takes
names apart with `strings.HasPrefix` and `strings.Split(_, "-")`. All these
names are ASCII, so a Go string is its list of characters here, and
`strings.Split` with a one-character separator is the library's
`List.splitOn`: Go's `Split("", "-")` is `[""]` and `Split("a-", "-")` is
`["a", ""]`, exactly as `splitOn` does.

gwacl draws service and role names from `[a-z0-9]` (`IsIdent`), so they
hold no `-`, and then:

* `splitOn_single`: a name with no `-` splits into itself;
* `splitOn_dash`: `x ++ "-" ++ r` splits into `[x, r]`, and its first field
  is `x` whatever `r` holds (`splitOn_dash_cons`).
-/
namespace Juju

/-- A Go string. -/
abbrev Str := List Char

/-- One character of gwacl's random identifiers: `[a-z0-9]`. -/
def isIdentChar (c : Char) : Bool :=
  ('a' ≤ c && c ≤ 'z') || ('0' ≤ c && c ≤ '9')

/-- A name over gwacl's identifier alphabet (`makeRandomIdentifier`). -/
def IsIdent (x : Str) : Prop := ∀ c ∈ x, isIdentChar c = true

instance (x : Str) : Decidable (IsIdent x) := inferInstanceAs (Decidable (∀ c ∈ x, _))

theorem IsIdent.dash_not_mem {x : Str} (h : IsIdent x) : '-' ∉ x :=
  fun hm => absurd (h _ hm) (by decide)

theorem IsIdent.append {x y : Str} (hx : IsIdent x) (hy : IsIdent y) : IsIdent (x ++ y) := by
  intro c hc
  rcases List.mem_append.mp hc with h | h
  exacts [hx c h, hy c h]

theorem splitOn_single {x : Str} (h : '-' ∉ x) : x.splitOn '-' = [x] :=
  List.splitOnP_eq_single _ _ fun c hc hd => h (by rwa [eq_of_beq hd] at hc)

theorem splitOn_dash_cons {x : Str} (hx : '-' ∉ x) (r : Str) :
    (x ++ '-' :: r).splitOn '-' = x :: r.splitOn '-' := by
  have hx' : ∀ c ∈ x, ¬(c == '-') = true := fun c hc hd => hx (by rwa [eq_of_beq hd] at hc)
  rw [List.splitOn, List.splitOnP_first _ _ hx' '-' (by decide)]
  rfl

theorem splitOn_dash {x r : Str} (hx : '-' ∉ x) (hr : '-' ∉ r) :
    (x ++ '-' :: r).splitOn '-' = [x, r] := by
  rw [splitOn_dash_cons hx, splitOn_single hr]

end Juju
