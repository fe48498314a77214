import CodeFormatting.Path
import CodeFormatting.Proofs.Text
namespace CodeFormatting.Path

/-! The components of a path are the names in its text, with the root or a single dot in front
where the text begins with one. -/

variable {base path root : Path}

/-- What a text between slashes names. -/
def named (text : String) : List Component :=
  (Text.pieces '/' text).filterMap component?

/-- The root or the single dot at the front of a path. -/
def lead? : List Char → Option Component
  | '/' :: _ => some .root
  | ['.'] => some .current
  | '.' :: '/' :: _ => some .current
  | _ => none

@[simp] theorem named_empty : named "" = [] := rfl

theorem named_append (front back : String) :
    named (front ++ "/" ++ back) = named front ++ named back := by
  rw [named, named, named, ← List.filterMap_append]
  exact congrArg (List.filterMap component?) (Text.pieces_append '/' front back)

theorem named_append_slash (text : String) : named (text ++ "/") = named text := by
  simpa using named_append text ""

theorem root_not_mem_named (text : String) : Component.root ∉ named text := by
  intro hroot
  obtain ⟨piece, -, hpiece⟩ := List.mem_filterMap.mp hroot
  simp only [component?] at hpiece
  split at hpiece
  · cases hpiece
  · split at hpiece <;> cases hpiece

theorem component?_eq_parent_iff {piece : String} :
    component? piece = some .parent ↔ piece = ".." := by
  simp only [component?]
  constructor
  · intro hpiece
    split at hpiece
    · cases hpiece
    · split at hpiece
      · assumption
      · cases hpiece
  · rintro rfl
    rfl

theorem parent_mem_named_iff {text : String} :
    Component.parent ∈ named text ↔ ".." ∈ Text.pieces '/' text := by
  simp only [named, List.mem_filterMap, component?_eq_parent_iff, exists_eq_right]

theorem components_eq (path : Path) :
    path.components = (lead? path.text.toList).toList ++ named path.text := by
  rcases path with ⟨text⟩
  simp only [components, split]
  split
  · next rest htext =>
      have hslash : text = "" ++ "/" ++ String.ofList rest := by
        rw [← String.toList_inj, htext]
        simp
      rw [htext, hslash, named_append]
      rfl
  · next htext =>
      obtain rfl : text = "." := String.toList_inj.mp htext
      rfl
  · next rest htext =>
      have hdot : text = "." ++ "/" ++ String.ofList rest := by
        rw [← String.toList_inj, htext]
        simp
      have hrest : String.ofList ('/' :: rest) = "" ++ "/" ++ String.ofList rest := by
        rw [← String.toList_inj]
        simp
      rw [htext, hrest, hdot, named_append]
      exact congrArg (Component.current :: ·) (named_append "" (String.ofList rest))
  · next hroot hdot hdots =>
      have hlead : lead? text.toList = none := by
        rw [lead?.eq_4]
        · exact hroot
        · exact hdot
        · exact hdots
      rw [hlead]
      rfl

theorem lead?_eq_root_iff {characters : List Char} :
    lead? characters = some .root ↔ characters.head? = some '/' := by
  unfold lead?
  split
  · simp
  · simp
  · simp
  · next hroot _ _ =>
      refine iff_of_false nofun fun hfirst => ?_
      obtain ⟨rest, hcharacters⟩ := List.head?_eq_some_iff.mp hfirst
      exact hroot rest hcharacters

theorem lead?_ne_parent (characters : List Char) : lead? characters ≠ some .parent := by
  unfold lead?
  split <;> simp

theorem root_mem_components_iff {path : Path} :
    Component.root ∈ path.components ↔ path.isAbsolute = true := by
  rw [components_eq, List.mem_append, or_iff_left (root_not_mem_named path.text),
    Option.mem_toList, lead?_eq_root_iff, isAbsolute, beq_iff_eq]

theorem parent_mem_components_iff {path : Path} :
    Component.parent ∈ path.components ↔ ".." ∈ Text.pieces '/' path.text := by
  rw [components_eq, List.mem_append, Option.mem_toList,
    or_iff_right (lead?_ne_parent path.text.toList), parent_mem_named_iff]

/-! Parents. Only a path that names nothing below its front has none. -/

theorem component?_eq_none_iff {piece : String} :
    component? piece = none ↔ piece = "" ∨ piece = "." := by
  simp only [component?]
  split
  · next htrivial => simp [htrivial]
  · next hother => split <;> simp [hother]

theorem named_eq_nil_iff {text : String} :
    named text = [] ↔ ∀ piece ∈ Text.pieces '/' text, piece = "" ∨ piece = "." := by
  simp only [named, List.filterMap_eq_nil_iff, component?_eq_none_iff]

theorem split_fst (path : Path) : path.split.1 = lead? path.text.toList := by
  simp only [split]
  split
  · next rest htext => rw [htext, lead?]
  · next htext => rw [htext, lead?]
  · next rest htext => rw [htext, lead?]
  · next hroot hdot hdots => rw [lead?.eq_4 _ hroot hdot hdots]

theorem named_of_parent (hparent : path.parent = none) : named path.text = [] := by
  rcases path with ⟨text⟩
  simp only [parent] at hparent
  split at hparent
  · cases hparent
  · next hdropped =>
      have hrest : (Text.pieces '/' (split ⟨text⟩).2.2).filterMap component? = [] := by
        simpa using hdropped
      have hcomponents := components_eq ⟨text⟩
      simp only [components, hrest, split_fst, List.append_nil] at hcomponents
      exact List.self_eq_append_right.mp hcomponents

theorem isAbsolute_of_parent (habsolute : path.isAbsolute = true)
    (hparent : path.parent = some base) : base.isAbsolute = true := by
  rw [isAbsolute, beq_iff_eq] at habsolute
  obtain ⟨rest, htext⟩ := List.head?_eq_some_iff.mp habsolute
  simp only [parent, split, htext] at hparent
  split at hparent
  · cases hparent
    simp [isAbsolute]
  · cases hparent

/-! Joining. A path that is not absolute is put after the base with one slash in between. -/

inductive Joined (base path : Path) : Path → Prop
  | alone (hempty : base.text = "") : Joined base path path
  | onto {front : String} (hslash : base.text = front ++ "/") :
      Joined base path ⟨front ++ "/" ++ path.text⟩
  | after (hvisible : base.text ≠ "") (hends : base.text.toList.getLast? ≠ some '/') :
      Joined base path ⟨base.text ++ "/" ++ path.text⟩

theorem joined_join (base : Path) (hrelative : path.isAbsolute = false) :
    Joined base path (base.join path) := by
  rcases base with ⟨text⟩
  simp only [join, hrelative, Bool.or_eq_true, beq_iff_eq]
  split
  · contradiction
  · split
    · next hends =>
        rcases hends with hempty | hslash
        · obtain rfl : text = "" := String.isEmpty_iff.mp hempty
          rw [String.empty_append]
          exact .alone rfl
        · obtain ⟨front, hfront⟩ := List.getLast?_eq_some_iff.mp hslash
          have htext : text = String.ofList front ++ "/" := by
            rw [← String.toList_inj, hfront]
            simp
          rw [htext]
          exact .onto rfl
    · next hends =>
        rw [not_or] at hends
        exact .after (mt String.isEmpty_iff.mpr hends.1) hends.2

theorem named_join (base : Path) (hrelative : path.isAbsolute = false) :
    named (base.join path).text = named base.text ++ named path.text := by
  have hjoined := joined_join base hrelative
  generalize base.join path = joined at hjoined ⊢
  cases hjoined with
  | alone hempty => rw [hempty, named_empty, List.nil_append]
  | @onto front hslash =>
      have hbase : named base.text = named front := by
        rw [hslash, named_append_slash]
      rw [hbase, named_append]
  | after hvisible hends => rw [named_append]

theorem lead?_append {front back : List Char} (hfront : front ≠ [])
    (hslash : front.getLast? = some '/' ∨ back.head? = some '/') :
    lead? (front ++ back) = lead? front := by
  rcases front with _ | ⟨first, _ | ⟨second, rest⟩⟩
  · contradiction
  · by_cases hroot : first = '/'
    · simp [lead?, hroot]
    · by_cases hdot : first = '.'
      · obtain ⟨others, rfl⟩ : ∃ others, back = '/' :: others := by
          simpa [hdot, List.head?_eq_some_iff] using hslash
        simp [lead?, hdot]
      · simp [lead?, hroot, hdot]
  · by_cases hroot : first = '/' <;> by_cases hdot : first = '.' <;>
      by_cases hslash : second = '/' <;> simp_all [lead?]

theorem text_join_eq_append (base : Path) (hvisible : base.text ≠ "")
    (hrelative : path.isAbsolute = false) :
    ∃ rest, (base.join path).text.toList = base.text.toList ++ rest ∧
      (base.text.toList.getLast? = some '/' ∨ rest.head? = some '/') := by
  have hjoined := joined_join base hrelative
  generalize base.join path = joined at hjoined ⊢
  cases hjoined with
  | alone hempty => contradiction
  | onto hslash => exact ⟨path.text.toList, by simp [hslash], .inl (by simp [hslash])⟩
  | after hvisible hends => exact ⟨'/' :: path.text.toList, by simp, .inr rfl⟩

theorem join_of_empty (hempty : base.text = "") (path : Path) : base.join path = path := by
  rcases base with ⟨text⟩
  obtain rfl : text = "" := hempty
  simp [join]

theorem isAbsolute_join (base path : Path) :
    (base.join path).isAbsolute = (base.isAbsolute || path.isAbsolute) := by
  cases habsolute : path.isAbsolute with
  | true => rw [join_of_isAbsolute base habsolute, habsolute, Bool.or_true]
  | false =>
      rw [Bool.or_false]
      by_cases hempty : base.text = ""
      · rw [join_of_empty hempty, habsolute, isAbsolute, hempty]
        rfl
      · obtain ⟨rest, htext, -⟩ := text_join_eq_append base hempty habsolute
        obtain ⟨first, others, hbase⟩ :=
          List.exists_cons_of_ne_nil (mt String.toList_eq_nil_iff.mp hempty)
        rw [isAbsolute, isAbsolute, htext, hbase]
        rfl

theorem exists_components_join (root : Path) (hrelative : path.isAbsolute = false) :
    ∃ rest, (root.join path).components = root.components ++ rest ∧ Component.root ∉ rest ∧
      (Component.parent ∈ rest ↔ ".." ∈ Text.pieces '/' path.text) := by
  by_cases hempty : root.text = ""
  · have hroot : root.components = [] := by
      rw [components_eq, hempty]
      rfl
    refine ⟨path.components, by rw [join_of_empty hempty, hroot, List.nil_append], ?_,
      parent_mem_components_iff⟩
    rw [root_mem_components_iff, hrelative]
    exact Bool.false_ne_true
  · obtain ⟨rest, htext, hslash⟩ := text_join_eq_append root hempty hrelative
    refine ⟨named path.text, ?_, root_not_mem_named path.text, parent_mem_named_iff⟩
    rw [components_eq, components_eq, named_join root hrelative, htext,
      lead?_append (mt String.toList_eq_nil_iff.mp hempty) hslash, List.append_assoc]

/-- The path goes on from the root by names that do not lead up. -/
def Within (root path : Path) : Prop :=
  ∃ rest, path.components = root.components ++ rest ∧ Component.root ∉ rest ∧
    Component.parent ∉ rest

theorem within_join_iff (root : Path) (hrelative : path.isAbsolute = false) :
    Within root (root.join path) ↔ ".." ∉ Text.pieces '/' path.text := by
  obtain ⟨rest, hcomponents, hroot, hparent⟩ := exists_components_join root hrelative
  rw [← hparent]
  constructor
  · rintro ⟨other, hother, -, hlevel⟩
    rw [hcomponents, List.append_cancel_left_eq] at hother
    rwa [hother]
  · intro hlevel
    exact ⟨rest, hcomponents, hroot, hlevel⟩

/-- No path that is absolute goes on from a relative one. -/
theorem not_within_of_isAbsolute (habsolute : path.isAbsolute = true)
    (hrelative : root.isAbsolute = false) : ¬ Within root path := by
  rintro ⟨rest, hcomponents, hroot, -⟩
  have hmem := root_mem_components_iff.mpr habsolute
  rw [hcomponents, List.mem_append, or_iff_left hroot, root_mem_components_iff, hrelative] at hmem
  cases hmem

/-! Joining several pieces. -/

theorem isAbsolute_joinAll (base : Path) (pieces : List String) :
    (base.joinAll pieces).isAbsolute =
      (base.isAbsolute || pieces.any fun piece => Path.isAbsolute ⟨piece⟩) := by
  induction pieces generalizing base with
  | nil => rw [List.any_nil, Bool.or_false, joinAll, List.foldl_nil]
  | cons piece pieces induction =>
      rw [List.any_cons, ← Bool.or_assoc, ← isAbsolute_join]
      exact induction (base.join ⟨piece⟩)

theorem named_joinAll (base : Path) {pieces : List String}
    (hrelative : ∀ piece ∈ pieces, Path.isAbsolute ⟨piece⟩ = false) :
    named (base.joinAll pieces).text = named base.text ++ pieces.flatMap named := by
  induction pieces generalizing base with
  | nil => rw [List.flatMap_nil, List.append_nil, joinAll, List.foldl_nil]
  | cons piece pieces induction =>
      rw [List.forall_mem_cons] at hrelative
      rw [List.flatMap_cons, ← List.append_assoc, ← named_join base hrelative.1]
      exact induction (base.join ⟨piece⟩) hrelative.2

theorem parent_mem_joinAll_iff {pieces : List String}
    (hrelative : ∀ piece ∈ pieces, Path.isAbsolute ⟨piece⟩ = false) :
    ".." ∈ Text.pieces '/' (Path.joinAll ⟨""⟩ pieces).text ↔
      ∃ piece ∈ pieces, ".." ∈ Text.pieces '/' piece := by
  rw [← parent_mem_named_iff, named_joinAll _ hrelative, named_empty, List.nil_append,
    List.mem_flatMap]
  simp only [parent_mem_named_iff]

/-! Names in turn, each a directory below the one before. -/

/-- A text that names one thing in a directory. -/
structure IsName (text : String) : Prop where
  visible : text ≠ ""
  undivided : '/' ∉ text.toList

instance (text : String) : Decidable (IsName text) :=
  decidable_of_iff (text ≠ "" ∧ '/' ∉ text.toList)
    ⟨fun ⟨hvisible, hundivided⟩ => ⟨hvisible, hundivided⟩,
      fun hname => ⟨hname.visible, hname.undivided⟩⟩

theorem IsName.isAbsolute_eq {name : String} (hname : IsName name) :
    Path.isAbsolute ⟨name⟩ = false := by
  rw [isAbsolute, beq_eq_false_iff_ne]
  intro hslash
  exact hname.undivided (List.mem_of_mem_head? hslash)

theorem IsName.join_eq {name : String} (hname : IsName name) (hvisible : base.text ≠ "")
    (hends : base.text.toList.getLast? ≠ some '/') :
    base.join ⟨name⟩ = ⟨base.text ++ "/" ++ name⟩ := by
  have hjoined := joined_join base hname.isAbsolute_eq
  generalize base.join ⟨name⟩ = joined at hjoined ⊢
  cases hjoined with
  | alone hempty => contradiction
  | onto hslash => simp [hslash] at hends
  | after => rfl

theorem IsName.getLast?_ne {name : String} (hname : IsName name) (front : List Char) :
    (front ++ name.toList).getLast? ≠ some '/' := by
  rw [List.getLast?_append_of_ne_nil _ (mt String.toList_eq_nil_iff.mp hname.visible)]
  intro hslash
  exact hname.undivided (List.mem_of_getLast? hslash)

theorem text_joinAll {names : List String} (hnames : ∀ name ∈ names, IsName name)
    (hvisible : base.text ≠ "") (hends : base.text.toList.getLast? ≠ some '/') :
    (base.joinAll names).text = "/".intercalate (base.text :: names) := by
  induction names generalizing base with
  | nil => rw [String.intercalate_singleton, joinAll, List.foldl_nil]
  | cons name names induction =>
      rw [List.forall_mem_cons] at hnames
      obtain ⟨hname, hrest⟩ := hnames
      have hdeeper : (⟨base.text ++ "/" ++ name⟩ : Path).text.toList.getLast? ≠ some '/' := by
        rw [String.toList_append]
        exact hname.getLast?_ne _
      calc (base.joinAll (name :: names)).text
        _ = ((base.join ⟨name⟩).joinAll names).text := rfl
        _ = "/".intercalate ((base.text ++ "/" ++ name) :: names) := by
            rw [hname.join_eq hvisible hends]
            exact induction hrest (by simp) hdeeper
        _ = "/".intercalate (base.text :: name :: names) := by
            rw [String.intercalate_cons_append, String.intercalate_cons_cons]

theorem text_joinAll_empty {names : List String} (hnames : ∀ name ∈ names, IsName name) :
    (Path.joinAll ⟨""⟩ names).text = "/".intercalate names := by
  cases names with
  | nil => rfl
  | cons name names =>
      rw [List.forall_mem_cons] at hnames
      obtain ⟨hname, hrest⟩ := hnames
      have hfirst : Path.joinAll ⟨""⟩ (name :: names) = Path.joinAll ⟨name⟩ names :=
        congrArg (Path.joinAll · names) (join_of_empty rfl ⟨name⟩)
      rw [hfirst]
      exact text_joinAll hrest hname.visible (hname.getLast?_ne [])

end CodeFormatting.Path
