import Mathlib.Data.List.Lex
import Mathlib.Data.Prod.Lex
import Mathlib.Data.String.Basic
import CodeFormatting.Path
namespace CodeFormatting.Path

/-! Paths are ordered as the lists of their components are: the root first, then a dot, then two
dots, then names in their own order. -/

def Component.name : Component → String
  | .normal name => name
  | _ => ""

def Component.key (component : Component) : ℕ ×ₗ String :=
  toLex (component.rank, component.name)

def key (path : Path) : List (ℕ ×ₗ String) :=
  path.components.map Component.key

theorem Component.compare_eq_lt_iff {left right : Component} :
    left.compare right = .lt ↔ left.key < right.key := by
  cases left <;> cases right <;>
    simp [Component.compare, Component.key, Component.rank, Component.name,
      Prod.Lex.toLex_lt_toLex, compare_lt_iff_lt]

theorem Component.compare_eq_eq_iff {left right : Component} :
    left.compare right = .eq ↔ left.key = right.key := by
  cases left <;> cases right <;>
    simp [Component.compare, Component.key, Component.rank, Component.name]

theorem compareComponents_eq_lt_iff {lefts rights : List Component} :
    compareComponents lefts rights = .lt ↔
      lefts.map Component.key < rights.map Component.key := by
  induction lefts generalizing rights with
  | nil => cases rights <;> simp [compareComponents]
  | cons left lefts induction =>
      cases rights with
      | nil => simp [compareComponents]
      | cons right rights =>
          simp only [compareComponents, Ordering.then_eq_lt, Component.compare_eq_lt_iff,
            Component.compare_eq_eq_iff, induction, List.map_cons, List.cons_lt_cons_iff]

theorem compareComponents_eq_eq_iff {lefts rights : List Component} :
    compareComponents lefts rights = .eq ↔
      lefts.map Component.key = rights.map Component.key := by
  induction lefts generalizing rights with
  | nil => cases rights <;> simp [compareComponents]
  | cons left lefts induction =>
      cases rights with
      | nil => simp [compareComponents]
      | cons right rights =>
          simp only [compareComponents, Ordering.then_eq_eq, Component.compare_eq_eq_iff,
            induction, List.map_cons, List.cons.injEq]

theorem isLE_compare_iff {left right : Path} :
    (left.compare right).isLE = true ↔ left.key ≤ right.key := by
  rw [Ordering.isLE_iff_eq_lt_or_eq_eq, le_iff_lt_or_eq]
  exact or_congr compareComponents_eq_lt_iff compareComponents_eq_eq_iff

end CodeFormatting.Path
