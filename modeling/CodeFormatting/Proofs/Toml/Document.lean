import Mathlib.Data.List.Nodup
import CodeFormatting.Toml.Parser
namespace CodeFormatting.Toml

/-! No table of a document has a key twice. A table only ever grows by a key that it does not
have, and what stands at a key it has is replaced in its place. -/

/-- Neither an array nor a table. -/
def isScalar : Toml → Bool
  | .array _ => false
  | .table _ => false
  | _ => true

/-- The keys of every table in a value are different ones. -/
inductive Distinct : Toml → Prop
  | scalar {value : Toml} (hscalar : value.isScalar = true) : Distinct value
  | array {items : List Toml} (hitems : ∀ item ∈ items, Distinct item) : Distinct (.array items)
  | table {entries : List (String × Toml)} (hkeys : (entries.map Prod.fst).Nodup)
      (hvalues : ∀ entry ∈ entries, Distinct entry.2) : Distinct (.table entries)

theorem Distinct.nodup_keys {entries : List (String × Toml)}
    (hdistinct : Distinct (.table entries)) : (entries.map Prod.fst).Nodup := by
  cases hdistinct with
  | scalar hscalar => cases hscalar
  | table hkeys hvalues => exact hkeys

theorem Distinct.of_mem {entries : List (String × Toml)} {entry : String × Toml}
    (hdistinct : Distinct (.table entries)) (hmem : entry ∈ entries) : entry.2.Distinct := by
  cases hdistinct with
  | scalar hscalar => cases hscalar
  | table hkeys hvalues => exact hvalues entry hmem

theorem not_mem_of_lookup {Value : Type} {key : String} {entries : List (String × Value)}
    (hnone : entries.lookup key = none) : key ∉ entries.map Prod.fst := by
  intro hmem
  obtain ⟨entry, hentry, hkey⟩ := List.mem_map.mp hmem
  have hother := List.lookup_eq_none_iff.mp hnone entry hentry
  rw [bne_iff_ne] at hother
  exact hother hkey.symm

theorem mem_of_lookup {Value : Type} {key : String} {value : Value}
    {entries : List (String × Value)} (hfound : entries.lookup key = some value) :
    (key, value) ∈ entries := by
  obtain ⟨front, back, rfl, -⟩ := List.lookup_eq_some_iff.mp hfound
  exact List.mem_append_right _ List.mem_cons_self

namespace Node

/-- The keys of every table that is being filled, and of every table in a value, are different
ones. -/
inductive Distinct : Node → Prop
  | value {held : Toml} (hheld : held.Distinct) : Distinct (.value held)
  | table {implicit dotted : Bool} {entries : List (String × Node)}
      (hkeys : (entries.map Prod.fst).Nodup) (hnodes : ∀ entry ∈ entries, Distinct entry.2) :
      Distinct (.table implicit dotted entries)
  | tables {latest : Node} {earlier : List Node} (hlatest : Distinct latest)
      (hearlier : ∀ node ∈ earlier, Distinct node) : Distinct (.tables latest earlier)

variable {key : String} {node next : Node} {entries : List (String × Node)}
  {implicit dotted : Bool}

theorem distinct_root : Distinct root :=
  .table List.nodup_nil nofun

def isTable : Node → Bool
  | .table _ _ _ => true
  | _ => false

theorem entriesToToml_eq (entries : List (String × Node)) :
    entriesToToml entries = entries.map fun entry => (entry.1, entry.2.toToml) := by
  induction entries with
  | nil => rfl
  | cons entry entries induction => rw [entriesToToml, induction, List.map_cons]

theorem nodesToToml_eq (nodes : List Node) : nodesToToml nodes = nodes.map toToml := by
  induction nodes with
  | nil => rfl
  | cons node nodes induction => rw [nodesToToml, induction, List.map_cons]

theorem Distinct.toToml (hnode : Distinct node) : node.toToml.Distinct := by
  induction hnode with
  | value hheld =>
      rw [Node.toToml]
      exact hheld
  | table hkeys hnodes induction =>
      rw [Node.toToml, entriesToToml_eq]
      refine .table ?_ ?_
      · rwa [List.map_map]
      · intro entry hentry
        obtain ⟨present, hpresent, rfl⟩ := List.mem_map.mp hentry
        exact induction present hpresent
  | tables hlatest hearlier latestInduction earlierInduction =>
      rw [Node.toToml, nodesToToml_eq]
      refine .array ?_
      intro item hitem
      rw [List.mem_reverse, List.mem_cons] at hitem
      rcases hitem with rfl | hitem
      · exact latestInduction
      · obtain ⟨node, hmem, rfl⟩ := List.mem_map.mp hitem
        exact earlierInduction node hmem

/-! Where a table changes. -/

variable (hkeys : (entries.map Prod.fst).Nodup) (hnodes : ∀ entry ∈ entries, Distinct entry.2)
  (hnode : Distinct node)

include hkeys hnodes hnode

theorem distinct_append (hnone : find? key entries = none) :
    Distinct (.table implicit dotted (entries ++ [(key, node)])) := by
  refine .table ?_ ?_
  · rw [List.map_append, List.map_singleton, ← List.concat_eq_append]
    exact List.Nodup.concat (not_mem_of_lookup hnone) hkeys
  · intro entry hentry
    rw [List.mem_append, List.mem_singleton] at hentry
    rcases hentry with hentry | rfl
    · exact hnodes entry hentry
    · exact hnode

theorem distinct_replace : Distinct (.table implicit dotted (replace key node entries)) := by
  refine .table ?_ ?_
  · have hsame : (replace key node entries).map Prod.fst = entries.map Prod.fst := by
      rw [replace, List.map_map]
      refine List.map_congr_left ?_
      rintro ⟨name, present⟩ -
      simp only [Function.comp_apply]
      split <;> rfl
    rwa [hsame]
  · intro entry hentry
    obtain ⟨⟨name, present⟩, hpresent, rfl⟩ := List.mem_map.mp hentry
    simp only
    split
    · exact hnode
    · exact hnodes _ hpresent

omit hkeys hnodes hnode

/-- A table with different keys in it and in all tables below. -/
structure Orderly (node : Node) : Prop where
  distinct : Distinct node
  table : node.isTable = true

/-- An action that makes no key stand twice in a table. -/
def Keeps (action : Node → Option Node) : Prop :=
  ∀ node next, Distinct node → action node = some next → Orderly next

theorem keeps_modify? {action : Node → Option Node} (haction : Keeps action) (dotted : Bool)
    (path : List String) : Keeps (modify? dotted action path) := by
  induction path with
  | nil => exact haction
  | cons key path induction =>
      intro node next hnode hnext
      cases hnode with
      | value hheld => cases hnext
      | tables hlatest hearlier => cases hnext
      | table hkeys hnodes =>
          rw [modify?] at hnext
          split at hnext
          · next hnone =>
              obtain ⟨child, hchild, hnew⟩ := Option.bind_eq_some_iff.mp hnext
              cases hnew
              have hempty : Distinct (.table true dotted []) := .table List.nodup_nil nofun
              have hnew := (induction _ _ hempty hchild).distinct
              exact ⟨distinct_append hkeys hnodes hnew hnone, rfl⟩
          · cases hnext
          · next latest earlier hfound =>
              obtain ⟨child, hchild, hnew⟩ := Option.bind_eq_some_iff.mp hnext
              cases hnew
              cases hnodes _ (mem_of_lookup hfound) with
              | tables hlatest hearlier =>
                  have hnew := (induction _ _ hlatest hchild).distinct
                  exact ⟨distinct_replace hkeys hnodes (.tables hnew hearlier), rfl⟩
          · next childImplicit childDotted children hfound =>
              split at hnext
              · cases hnext
              · obtain ⟨child, hchild, hnew⟩ := Option.bind_eq_some_iff.mp hnext
                cases hnew
                have hpresent := hnodes _ (mem_of_lookup hfound)
                have hnew := (induction _ _ hpresent hchild).distinct
                exact ⟨distinct_replace hkeys hnodes hnew, rfl⟩

theorem keeps_addValue? {simple : Bool} {value : Toml} (hvalue : value.Distinct) :
    Keeps (addValue? simple key value) := by
  intro node next hnode hnext
  cases hnode with
  | value hheld => cases hnext
  | tables hlatest hearlier => cases hnext
  | table hkeys hnodes =>
      rw [addValue?] at hnext
      split at hnext
      · cases hnext
      · split at hnext
        · cases hnext
        · next hnone =>
            cases hnext
            exact ⟨distinct_append hkeys hnodes (.value hvalue) hnone, rfl⟩

theorem keeps_openTable? (key : String) : Keeps (openTable? key) := by
  intro node next hnode hnext
  cases hnode with
  | value hheld => cases hnext
  | tables hlatest hearlier => cases hnext
  | table hkeys hnodes =>
      rw [openTable?] at hnext
      split at hnext
      · next hnone =>
          cases hnext
          exact ⟨distinct_append hkeys hnodes distinct_root hnone, rfl⟩
      · next children hfound =>
          cases hnext
          have hchild := hnodes _ (mem_of_lookup hfound)
          cases hchild with
          | table hchildKeys hchildren =>
              exact ⟨distinct_replace hkeys hnodes (.table hchildKeys hchildren), rfl⟩
      · cases hnext

theorem keeps_openItem? (key : String) : Keeps (openItem? key) := by
  intro node next hnode hnext
  cases hnode with
  | value hheld => cases hnext
  | tables hlatest hearlier => cases hnext
  | table hkeys hnodes =>
      rw [openItem?] at hnext
      split at hnext
      · next hnone =>
          cases hnext
          exact ⟨distinct_append hkeys hnodes (.tables distinct_root nofun) hnone, rfl⟩
      · next latest earlier hfound =>
          cases hnext
          have hchild := hnodes _ (mem_of_lookup hfound)
          cases hchild with
          | tables hlatest hearlier =>
              have hall := List.forall_mem_cons.mpr ⟨hlatest, hearlier⟩
              exact ⟨distinct_replace hkeys hnodes (.tables distinct_root hall), rfl⟩
      · cases hnext

theorem keeps_setKey? {value : Toml} (hvalue : value.Distinct) (path : List String) :
    Keeps (setKey? path value) := by
  intro node next hnode hnext
  rw [setKey?] at hnext
  split at hnext
  · exact keeps_modify? (keeps_addValue? hvalue) true path.dropLast node next hnode hnext
  · cases hnext

end Node

/-! Scalars. -/

theorem isScalar_bounded (value : Int) : (bounded value).isScalar = true := by
  rw [bounded]
  split <;> rfl

theorem isScalar_of_based? {base : Nat} {isDigit : Char → Bool} {characters : List Char}
    {value : Toml} (hread : based? base isDigit characters = some value) :
    value.isScalar = true := by
  rw [based?] at hread
  split at hread
  · cases hread
    rfl
  · obtain ⟨digits, -, rfl⟩ := Option.map_eq_some_iff.mp hread
    exact isScalar_bounded _

theorem isScalar_of_integer? {characters : List Char} {value : Toml}
    (hread : integer? characters = some value) : value.isScalar = true := by
  unfold integer? at hread
  split at hread
  · exact isScalar_of_based? hread
  · exact isScalar_of_based? hread
  · exact isScalar_of_based? hread
  · simp only at hread
    split at hread
    · cases hread
      exact isScalar_bounded _
    · split at hread
      · cases hread
        rfl
      · cases hread

theorem isScalar_of_finite? {negative : Bool} {characters : List Char} {value : Toml}
    (hread : finite? negative characters = some value) : value.isScalar = true := by
  obtain ⟨exponent, -, hread⟩ := Option.bind_eq_some_iff.mp hread
  obtain ⟨whole, -, hread⟩ := Option.bind_eq_some_iff.mp hread
  simp only [Option.bind_eq_bind] at hread
  split at hread
  · split at hread
    · cases hread
    · rw [Option.bind_some] at hread
      split at hread <;> cases hread <;> rfl
  · obtain ⟨fraction, -, hread⟩ := Option.bind_eq_some_iff.mp hread
    split at hread <;> cases hread <;> rfl

theorem isScalar_of_scalar? {characters : List Char} {value : Toml}
    (hread : scalar? characters = some value) : value.isScalar = true := by
  unfold scalar? at hread
  split at hread
  · cases hread
    rfl
  · cases hread
    rfl
  · split at hread
    · cases hread
      rfl
    · rcases Option.or_eq_some_iff.mp hread with hinteger | ⟨-, hfraction⟩
      · exact isScalar_of_integer? hinteger
      · simp only [fraction?] at hfraction
        split at hfraction
        · cases hfraction
          rfl
        · cases hfraction
          rfl
        · exact isScalar_of_finite? hfraction

theorem distinct_of_readScalar? {characters rest : List Char} {value : Toml}
    (hread : readScalar? characters = some (value, rest)) : value.Distinct := by
  refine .scalar ?_
  simp only [readScalar?] at hread
  split at hread
  · split at hread
    · obtain ⟨read, hscalar, hread⟩ := Option.bind_eq_some_iff.mp hread
      cases hread
      exact isScalar_of_scalar? hscalar
    · obtain ⟨read, hscalar, hread⟩ := Option.bind_eq_some_iff.mp hread
      cases hread
      exact isScalar_of_scalar? hscalar
  · obtain ⟨read, hscalar, hread⟩ := Option.bind_eq_some_iff.mp hread
    cases hread
    exact isScalar_of_scalar? hscalar

/-! Values. -/

/-- What the readers of values answer with, as far as their fuel goes. -/
structure ReadDistinct (fuel : Nat) : Prop where
  value : ∀ nesting characters value rest,
    readValue? fuel nesting characters = some (value, rest) → value.Distinct
  items : ∀ nesting characters items rest,
    readItems? fuel nesting characters = some (items, rest) → ∀ item ∈ items, item.Distinct
  entries : ∀ nesting node characters next rest, node.Distinct →
    readEntries? fuel nesting node characters = some (next, rest) → next.Distinct

theorem readDistinct_zero : ReadDistinct 0 :=
  ⟨nofun, nofun, nofun⟩

variable {fuel : Nat}

theorem ReadDistinct.value_succ (hfuel : ReadDistinct fuel) {nesting : Nat}
    {characters rest : List Char} {value : Toml}
    (hread : readValue? (fuel + 1) nesting characters = some (value, rest)) :
    value.Distinct := by
  simp only [readValue?] at hread
  split at hread
  · obtain ⟨read, -, hread⟩ := Option.map_eq_some_iff.mp hread
    cases hread
    exact .scalar rfl
  · obtain ⟨read, -, hread⟩ := Option.map_eq_some_iff.mp hread
    cases hread
    exact .scalar rfl
  · split at hread
    · cases hread
    · obtain ⟨⟨items, others⟩, hitems, hread⟩ := Option.bind_eq_some_iff.mp hread
      cases hread
      exact .array (hfuel.items _ _ _ _ hitems)
  · split at hread
    · cases hread
    · obtain ⟨⟨node, others⟩, hnode, hread⟩ := Option.bind_eq_some_iff.mp hread
      cases hread
      exact (hfuel.entries _ _ _ _ _ Node.distinct_root hnode).toToml
  · exact distinct_of_readScalar? hread

theorem ReadDistinct.items_succ (hfuel : ReadDistinct fuel) {nesting : Nat}
    {characters rest : List Char} {items : List Toml}
    (hread : readItems? (fuel + 1) nesting characters = some (items, rest)) :
    ∀ item ∈ items, item.Distinct := by
  simp only [readItems?] at hread
  obtain ⟨begun, -, hread⟩ := Option.bind_eq_some_iff.mp hread
  split at hread
  · cases hread
    nofun
  · obtain ⟨⟨item, others⟩, hitem, hread⟩ := Option.bind_eq_some_iff.mp hread
    obtain ⟨ended, -, hread⟩ := Option.bind_eq_some_iff.mp hread
    have hfirst := hfuel.value _ _ _ _ hitem
    simp only at hread
    split at hread
    · obtain ⟨⟨more, others⟩, hmore, hread⟩ := Option.bind_eq_some_iff.mp hread
      cases hread
      exact List.forall_mem_cons.mpr ⟨hfirst, hfuel.items _ _ _ _ hmore⟩
    · cases hread
      exact List.forall_mem_singleton.mpr hfirst
    · cases hread

theorem ReadDistinct.entries_succ (hfuel : ReadDistinct fuel) {nesting : Nat} {node next : Node}
    {characters rest : List Char} (hnode : node.Distinct)
    (hread : readEntries? (fuel + 1) nesting node characters = some (next, rest)) :
    next.Distinct := by
  simp only [readEntries?] at hread
  obtain ⟨begun, -, hread⟩ := Option.bind_eq_some_iff.mp hread
  split at hread
  · cases hread
    exact hnode
  · obtain ⟨⟨key, others⟩, -, hread⟩ := Option.bind_eq_some_iff.mp hread
    obtain ⟨equated, -, hread⟩ := Option.bind_eq_some_iff.mp hread
    simp only at hread
    split at hread
    · obtain ⟨valued, -, hread⟩ := Option.bind_eq_some_iff.mp hread
      obtain ⟨⟨value, others⟩, hvalue, hread⟩ := Option.bind_eq_some_iff.mp hread
      obtain ⟨grown, hgrown, hread⟩ := Option.bind_eq_some_iff.mp hread
      obtain ⟨ended, -, hread⟩ := Option.bind_eq_some_iff.mp hread
      have horderly := Node.keeps_setKey? (hfuel.value _ _ _ _ hvalue) key _ _ hnode hgrown
      split at hread
      · exact hfuel.entries _ _ _ _ _ horderly.distinct hread
      · cases hread
        exact horderly.distinct
      · cases hread
    · cases hread

theorem readDistinct (fuel : Nat) : ReadDistinct fuel := by
  induction fuel with
  | zero => exact readDistinct_zero
  | succ fuel induction =>
      exact ⟨fun _ _ _ _ => induction.value_succ, fun _ _ _ _ => induction.items_succ,
        fun _ _ _ _ _ => induction.entries_succ⟩

/-! Documents. -/

variable {draft next : Draft} {characters rest : List Char}

theorem Draft.orderly_of_set? {key : List String} {value : Toml} (hvalue : value.Distinct)
    (hdraft : draft.node.Orderly) (hset : draft.set? key value = some next) :
    next.node.Orderly := by
  obtain ⟨node, hnode, hset⟩ := Option.bind_eq_some_iff.mp hset
  cases hset
  exact Node.keeps_modify? (Node.keeps_setKey? hvalue key) false draft.current _ _
    hdraft.distinct hnode

theorem Draft.orderly_of_begin? {several : Bool} {key : List String}
    (hdraft : draft.node.Orderly) (hbegin : draft.begin? several key = some next) :
    next.node.Orderly := by
  obtain ⟨last, -, hbegin⟩ := Option.bind_eq_some_iff.mp hbegin
  obtain ⟨node, hnode, hbegin⟩ := Option.bind_eq_some_iff.mp hbegin
  cases hbegin
  refine Node.keeps_modify? ?_ false key.dropLast _ _ hdraft.distinct hnode
  cases several with
  | true => exact Node.keeps_openItem? last
  | false => exact Node.keeps_openTable? last

theorem orderly_of_readHeader? (hdraft : draft.node.Orderly)
    (hread : readHeader? draft characters = some (next, rest)) : next.node.Orderly := by
  simp only [readHeader?] at hread
  obtain ⟨⟨key, others⟩, -, hread⟩ := Option.bind_eq_some_iff.mp hread
  obtain ⟨begun, hbegun, hread⟩ := Option.bind_eq_some_iff.mp hread
  have horderly := Draft.orderly_of_begin? hdraft hbegun
  split at hread <;> cases hread <;> exact horderly

theorem orderly_of_readPair? (hdraft : draft.node.Orderly)
    (hread : readPair? draft characters = some (next, rest)) : next.node.Orderly := by
  simp only [readPair?] at hread
  obtain ⟨⟨key, others⟩, -, hread⟩ := Option.bind_eq_some_iff.mp hread
  simp only at hread
  split at hread
  · obtain ⟨⟨value, others⟩, hvalue, hread⟩ := Option.bind_eq_some_iff.mp hread
    obtain ⟨grown, hgrown, hread⟩ := Option.bind_eq_some_iff.mp hread
    cases hread
    exact Draft.orderly_of_set? ((readDistinct _).value _ _ _ _ hvalue) hdraft hgrown
  · cases hread

theorem orderly_of_readExpressions? (hdraft : draft.node.Orderly)
    (hread : readExpressions? fuel draft characters = some next) : next.node.Orderly := by
  induction fuel generalizing draft characters with
  | zero => cases hread
  | succ fuel induction =>
      simp only [readExpressions?] at hread
      obtain ⟨begun, -, hread⟩ := Option.bind_eq_some_iff.mp hread
      split at hread
      · cases hread
        exact hdraft
      · obtain ⟨⟨grown, others⟩, hgrown, hread⟩ := Option.bind_eq_some_iff.mp hread
        obtain ⟨ended, -, hread⟩ := Option.bind_eq_some_iff.mp hread
        exact induction (orderly_of_readHeader? hdraft hgrown) hread
      · obtain ⟨⟨grown, others⟩, hgrown, hread⟩ := Option.bind_eq_some_iff.mp hread
        obtain ⟨ended, -, hread⟩ := Option.bind_eq_some_iff.mp hread
        exact induction (orderly_of_readPair? hdraft hgrown) hread

/-- A document is a table, and no table in it has a key twice. -/
theorem exists_entries_of_parse? {text : String} {tree : Toml} (hparse : parse? text = some tree) :
    ∃ entries, tree = .table entries ∧ tree.Distinct := by
  obtain ⟨draft, hdraft, hparse⟩ := Option.bind_eq_some_iff.mp hparse
  cases hparse
  have hroot : Draft.empty.node.Orderly := ⟨Node.distinct_root, rfl⟩
  obtain ⟨hdistinct, htable⟩ := orderly_of_readExpressions? hroot hdraft
  rcases draft with ⟨node, current⟩
  cases node with
  | table implicit dotted entries =>
      exact ⟨Node.entriesToToml entries, by rw [Node.toToml], hdistinct.toToml⟩
  | value held => cases htable
  | tables latest earlier => cases htable

end CodeFormatting.Toml
