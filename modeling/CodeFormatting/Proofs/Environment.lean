import Mathlib.Data.List.Induction
import CodeFormatting.Environment
import CodeFormatting.Proofs.Text.Octets
namespace CodeFormatting

/-! What can be read of variables. A provider says which value a name has and lists all names
that have one; whatever else it is asked comes down to the first of these. A reference to a
provider passes on the same two. -/

structure Provider where
  get : String → Except MissingVariable String
  bindings : List (String × String)

namespace Provider

def getOr (provider : Provider) (name fallback : String) : String :=
  (provider.get name).toOption.getD fallback

def getVisible? (provider : Provider) (name : String) : Option String :=
  (provider.get name).toOption.filter fun value => !Text.isBlankText value

def contains (provider : Provider) (name : String) : Bool :=
  (provider.get name).toOption.isSome

def shared (provider : Provider) : Provider where
  get name := provider.get name
  bindings := provider.bindings

theorem shared_iterate (references : Nat) (provider : Provider) :
    shared^[references] provider = provider := by
  induction references with
  | zero => rfl
  | succ references induction => exact induction

end Provider

namespace Environment

def provider (environment : Environment) : Provider :=
  ⟨environment.get, environment.bindings⟩

@[simp] theorem get_provider (environment : Environment) :
    environment.provider.get = environment.get := rfl

@[simp] theorem bindings_provider (environment : Environment) :
    environment.provider.bindings = environment.bindings := rfl

@[simp] theorem getOr_provider (environment : Environment) :
    environment.provider.getOr = environment.getOr := rfl

@[simp] theorem getVisible?_provider (environment : Environment) :
    environment.provider.getVisible? = environment.getVisible? := rfl

@[simp] theorem contains_provider (environment : Environment) :
    environment.provider.contains = environment.contains := rfl

/-! The bindings of an environment, in the order of their names. -/

def Ordered (bindings : List (String × String)) : Prop :=
  bindings.Pairwise fun left right => left.1 < right.1

variable {bindings : List (String × String)} {name key value given : String}
  {environment : Environment}

theorem mem_inserted_iff (hordered : Ordered bindings) :
    (key, value) ∈ inserted name given bindings ↔
      key = name ∧ value = given ∨ key ≠ name ∧ (key, value) ∈ bindings := by
  induction bindings with
  | nil => simp [inserted]
  | cons binding rest induction =>
      obtain ⟨present, held⟩ := binding
      obtain ⟨hfirst, hrest⟩ := List.pairwise_cons.mp hordered
      have habove (hkey : (key, value) ∈ rest) : present < key := hfirst _ hkey
      unfold inserted
      split
      · next hbelow =>
          have hother (hkey : (key, value) ∈ (present, held) :: rest) : key ≠ name := by
            rcases List.mem_cons.mp hkey with hsame | hkey
            · cases hsame
              exact hbelow.ne'
            · exact (hbelow.trans (habove hkey)).ne'
          simp only [List.mem_cons (a := (key, value)) (b := (name, given)), Prod.mk.injEq]
          grind
      · split
        · next hsame =>
            subst hsame
            have hother (hkey : (key, value) ∈ rest) : key ≠ name := (habove hkey).ne'
            simp only [List.mem_cons, Prod.mk.injEq]
            grind
        · next hnot hne =>
            have hother : key = present → key ≠ name := by
              intro hkey hname
              exact hne (hname.symm.trans hkey)
            simp only [List.mem_cons, Prod.mk.injEq, induction hrest]
            grind

theorem ordered_inserted (hordered : Ordered bindings) (name given : String) :
    Ordered (inserted name given bindings) := by
  induction bindings with
  | nil => simp [inserted, Ordered]
  | cons binding rest induction =>
      obtain ⟨present, held⟩ := binding
      obtain ⟨hfirst, hrest⟩ := List.pairwise_cons.mp hordered
      unfold inserted
      split
      · next hbelow =>
          apply List.Pairwise.cons _ hordered
          simp only [List.mem_cons, forall_eq_or_imp]
          exact ⟨hbelow, fun other hother => hbelow.trans (hfirst other hother)⟩
      · next hnot =>
          split
          · next hsame =>
              subst hsame
              exact hrest.cons hfirst
          · next hne =>
              apply List.Pairwise.cons _ (induction hrest)
              intro other hother
              rcases (mem_inserted_iff hrest).mp hother with ⟨hname, -⟩ | ⟨-, hother⟩
              · rw [hname]
                exact lt_of_le_of_ne (not_lt.mp hnot) (Ne.symm hne)
              · exact hfirst _ hother

theorem lookup_eq_some_iff (hordered : Ordered bindings) :
    bindings.lookup name = some value ↔ (name, value) ∈ bindings := by
  induction bindings with
  | nil => simp
  | cons binding rest induction =>
      obtain ⟨present, held⟩ := binding
      obtain ⟨hfirst, hrest⟩ := List.pairwise_cons.mp hordered
      by_cases hsame : name = present
      · subst hsame
        have habsent : (name, value) ∉ rest := fun hmem => (hfirst _ hmem).false
        simp [habsent, eq_comm]
      · rw [List.lookup_cons, beq_false_of_ne hsame]
        simpa [hsame] using induction hrest

theorem get_eq_ok_iff (hordered : Ordered environment.bindings) :
    environment.get name = .ok value ↔ (name, value) ∈ environment.bindings := by
  rw [← lookup_eq_some_iff hordered, get]
  cases environment.bindings.lookup name <;> simp

theorem get_eq_error_of_absent (hordered : Ordered environment.bindings)
    (habsent : ∀ value, (name, value) ∉ environment.bindings) :
    environment.get name = .error ⟨name⟩ := by
  rw [get]
  cases hlookup : environment.bindings.lookup name with
  | none => rfl
  | some value => exact absurd ((lookup_eq_some_iff hordered).mp hlookup) (habsent value)

/-! What changes an environment, and which value stands after some changes. -/

inductive Change
  | set (name value : String)
  | remove (name : String)
  | clear
  deriving DecidableEq, Repr

def changed (environment : Environment) : Change → Environment
  | .set name value => environment.set name value
  | .remove name => environment.remove name
  | .clear => empty

namespace Change

def Concerns (name : String) : Change → Prop
  | .set other _ => other = name
  | .remove other => other = name
  | .clear => True

/-- The name was given the value by the last change that concerns it. -/
def Stands (changes : List Change) (name value : String) : Prop :=
  ∃ before after, changes = before ++ .set name value :: after ∧
    ∀ change ∈ after, ¬ change.Concerns name

theorem not_stands_nil : ¬ Stands [] name value := by
  simp [Stands]

theorem stands_concat_iff {changes : List Change} {change : Change} :
    Stands (changes ++ [change]) name value ↔
      change = .set name value ∨ ¬ change.Concerns name ∧ Stands changes name value := by
  constructor
  · intro hstands
    obtain ⟨before, after, hchanges, hlater⟩ := hstands
    rcases List.eq_nil_or_concat after with rfl | ⟨after, last, rfl⟩
    · obtain ⟨-, hlast⟩ := List.append_inj' hchanges rfl
      exact .inl (List.singleton_inj.mp hlast)
    · rw [List.concat_eq_append] at hlater hchanges
      rw [← List.cons_append, ← List.append_assoc] at hchanges
      obtain ⟨hfront, hlast⟩ := List.append_inj' hchanges rfl
      obtain rfl := List.singleton_inj.mp hlast
      refine .inr ⟨hlater _ (by simp), before, after, hfront, ?_⟩
      intro other hother
      exact hlater other (by simp [hother])
  · intro hcases
    rcases hcases with rfl | ⟨hspared, before, after, rfl, hlater⟩
    · exact ⟨changes, [], rfl, by simp⟩
    · refine ⟨before, after ++ [change], by simp, ?_⟩
      intro other hother
      rcases List.mem_append.mp hother with hother | hother
      · exact hlater other hother
      · rw [List.mem_singleton.mp hother]
        exact hspared

theorem stands_append_cons_iff {change : Change} (hspared : ¬ change.Concerns name)
    {before after : List Change} :
    Stands (before ++ change :: after) name value ↔ Stands (before ++ after) name value := by
  induction after using List.reverseRecOn with
  | nil =>
      have hother : change ≠ .set name value := fun hset => hspared (hset ▸ rfl)
      simp [stands_concat_iff, hspared, hother]
  | append_singleton after last induction =>
      rw [← List.cons_append, ← List.append_assoc, stands_concat_iff, induction,
        ← stands_concat_iff, List.append_assoc]

end Change

theorem mem_changed_iff (hordered : Ordered environment.bindings) (change : Change) :
    (name, value) ∈ (environment.changed change).bindings ↔
      change = .set name value ∨
        ¬ change.Concerns name ∧ (name, value) ∈ environment.bindings := by
  cases change with
  | set other given =>
      simp only [changed, set, mem_inserted_iff hordered, Change.Concerns, Change.set.injEq]
      grind
  | remove other =>
      simp only [changed, remove, Change.Concerns, List.mem_filter, bne_iff_ne, reduceCtorEq,
        false_or]
      grind
  | clear => simp [changed, empty, Change.Concerns]

theorem ordered_changed (hordered : Ordered environment.bindings) (change : Change) :
    Ordered (environment.changed change).bindings := by
  cases change with
  | set name value => exact ordered_inserted hordered name value
  | remove name => exact hordered.filter _
  | clear => exact List.Pairwise.nil

/-- An environment after some changes of an empty one. -/
def ofChanges (changes : List Change) : Environment :=
  changes.foldl changed empty

/-- What gives an environment its first bindings. -/
def initial (pairs : List (String × String)) : List Change :=
  pairs.map fun (name, value) => .set name value

theorem ofList_eq_ofChanges (pairs : List (String × String)) :
    ofList pairs = ofChanges (initial pairs) := by
  rw [ofList, ofChanges, initial, List.foldl_map]
  rfl

theorem ofChanges_concat (changes : List Change) (change : Change) :
    ofChanges (changes ++ [change]) = (ofChanges changes).changed change := by
  rw [ofChanges, List.foldl_append]
  rfl

theorem ordered_ofChanges (changes : List Change) : Ordered (ofChanges changes).bindings := by
  induction changes using List.reverseRecOn with
  | nil => exact List.Pairwise.nil
  | append_singleton changes change induction =>
      rw [ofChanges_concat]
      exact ordered_changed induction change

theorem mem_ofChanges_iff {changes : List Change} :
    (name, value) ∈ (ofChanges changes).bindings ↔ Change.Stands changes name value := by
  induction changes using List.reverseRecOn with
  | nil => simp [ofChanges, empty, Change.not_stands_nil]
  | append_singleton changes change induction =>
      rw [ofChanges_concat, mem_changed_iff (ordered_ofChanges changes), induction,
        Change.stands_concat_iff]

theorem get_ofChanges_iff {changes : List Change} :
    (ofChanges changes).get name = .ok value ↔ Change.Stands changes name value := by
  rw [get_eq_ok_iff (ordered_ofChanges changes), mem_ofChanges_iff]

/-! A variable is shown a setting by its value unless that is blank; a variable with a blank
value counts as one that is not there. -/

def Shows (environment : Environment) (name text : String) : Prop :=
  environment.get name = .ok text ∧ Text.isBlankText text = false

theorem get?_eq_some_iff :
    environment.get? name = some value ↔ environment.get name = .ok value := by
  rw [get?]
  cases environment.get name <;> simp [Except.toOption]

theorem getVisible?_eq_some_iff :
    environment.getVisible? name = some value ↔ environment.Shows name value := by
  rw [getVisible?, Option.filter_eq_some_iff, get?_eq_some_iff, Bool.not_eq_true']
  rfl

theorem getVisible?_eq_none_iff :
    environment.getVisible? name = none ↔ ∀ text, ¬ environment.Shows name text := by
  simp only [Option.eq_none_iff_forall_ne_some, ne_eq, getVisible?_eq_some_iff]

theorem Shows.eq (hshows : environment.Shows name value) (hother : environment.Shows name given) :
    value = given := by
  rw [← getVisible?_eq_some_iff] at hshows hother
  exact Option.some.inj (hshows.symm.trans hother)

theorem lookup_cons (present held key : String) (rest : List (String × String)) :
    ((present, held) :: rest).lookup key =
      if key = present then some held else rest.lookup key := by
  by_cases hkey : key = present
  · simp [hkey]
  · rw [List.lookup_cons, beq_false_of_ne hkey, if_neg hkey]

theorem lookup_inserted (bindings : List (String × String)) (name given key : String) :
    (inserted name given bindings).lookup key =
      if key = name then some given else bindings.lookup key := by
  induction bindings with
  | nil => exact lookup_cons name given key []
  | cons binding rest induction =>
      obtain ⟨present, held⟩ := binding
      unfold inserted
      split
      · exact lookup_cons name given key _
      · split
        · next hnot hsame =>
            rw [lookup_cons, lookup_cons, ← hsame]
            split <;> rfl
        · next hnot hne =>
            rw [lookup_cons, lookup_cons, induction]
            by_cases hkey : key = present
            · simp [hkey, Ne.symm hne]
            · simp [hkey]

theorem lookup_remove (environment : Environment) (name key : String) :
    (environment.remove name).bindings.lookup key =
      if key = name then none else environment.bindings.lookup key := by
  rw [remove]
  induction environment.bindings with
  | nil => simp
  | cons binding rest induction =>
      obtain ⟨present, held⟩ := binding
      rw [List.filter_cons]
      by_cases hpresent : present = name
      · simp only [hpresent, bne_self_eq_false, Bool.false_eq_true, if_false, induction,
          lookup_cons]
        split <;> rfl
      · simp only [bne_iff_ne, ne_eq, hpresent, not_false_eq_true, if_true, induction, lookup_cons]
        by_cases hkey : key = present
        · simp [hkey, hpresent]
        · simp [hkey]

theorem getVisible?_set_of_blank {blank : String} (hblank : Text.isBlankText blank = true)
    (environment : Environment) (name key : String) :
    (environment.set name blank).getVisible? key = (environment.remove name).getVisible? key := by
  simp only [getVisible?, get?, get, set, lookup_inserted, lookup_remove]
  by_cases hkey : key = name
  · simp [hkey, Except.toOption, hblank]
  · simp [hkey]

/-! Questions, and what answers them when it is known which values stand. -/

inductive Question
  | get (name : String)
  | getOr (name fallback : String)
  | getVisible? (name : String)
  | contains (name : String)
  | bindings
  deriving DecidableEq, Repr

inductive Answer
  | value (result : Except MissingVariable String)
  | text (text : String)
  | visible (text : Option String)
  | flag (flag : Bool)
  | bindings (bindings : List (String × String))

/-- The name that a question is about, unless it is about all of them. -/
def Question.name? : Question → Option String
  | .get name => some name
  | .getOr name _ => some name
  | .getVisible? name => some name
  | .contains name => some name
  | .bindings => none

def answer (provider : Provider) : Question → Answer
  | .get name => .value (provider.get name)
  | .getOr name fallback => .text (provider.getOr name fallback)
  | .getVisible? name => .visible (provider.getVisible? name)
  | .contains name => .flag (provider.contains name)
  | .bindings => .bindings provider.bindings

inductive Answers (Stands : String → String → Prop) : Question → Answer → Prop
  | found {name value : String} (hstands : Stands name value) :
      Answers Stands (.get name) (.value (.ok value))
  | missing {name : String} (hnone : ∀ value, ¬ Stands name value) :
      Answers Stands (.get name) (.value (.error ⟨name⟩))
  | own {name value : String} (fallback : String) (hstands : Stands name value) :
      Answers Stands (.getOr name fallback) (.text value)
  | fallback {name : String} (fallback : String) (hnone : ∀ value, ¬ Stands name value) :
      Answers Stands (.getOr name fallback) (.text fallback)
  | visible {name value : String} (hstands : Stands name value)
      (hvisible : ∃ character ∈ value.toList, Text.isBlank character = false) :
      Answers Stands (.getVisible? name) (.visible (some value))
  | blank {name value : String} (hstands : Stands name value)
      (hblank : ∀ character ∈ value.toList, Text.isBlank character = true) :
      Answers Stands (.getVisible? name) (.visible none)
  | invisible {name : String} (hnone : ∀ value, ¬ Stands name value) :
      Answers Stands (.getVisible? name) (.visible none)
  | present {name value : String} (hstands : Stands name value) :
      Answers Stands (.contains name) (.flag true)
  | absent {name : String} (hnone : ∀ value, ¬ Stands name value) :
      Answers Stands (.contains name) (.flag false)
  | listed {bindings : List (String × String)}
      (hmem : ∀ name value, (name, value) ∈ bindings ↔ Stands name value)
      (hordered : bindings.Pairwise fun left right =>
        Text.octets left.1 < Text.octets right.1) :
      Answers Stands .bindings (.bindings bindings)

namespace Answers

variable {Stands : String → String → Prop} {question : Question} {answer other : Answer}

theorem nodup_of_pairwise {bindings : List (String × String)}
    (hordered : bindings.Pairwise fun left right =>
      Text.octets left.1 < Text.octets right.1) : bindings.Nodup := by
  apply hordered.imp
  intro left right hbelow hsame
  rw [hsame] at hbelow
  exact List.lt_irrefl _ hbelow

/-- Where no name has two values, a question has no two answers. -/
theorem unique
    (hfunctional : ∀ name first second, Stands name first → Stands name second → first = second)
    (hanswer : Answers Stands question answer) (hother : Answers Stands question other) :
    answer = other := by
  cases hanswer with
  | found hstands =>
      cases hother with
      | found hsame => rw [hfunctional _ _ _ hstands hsame]
      | missing hnone => exact absurd hstands (hnone _)
  | missing hnone =>
      cases hother with
      | found hstands => exact absurd hstands (hnone _)
      | missing => rfl
  | own fallback hstands =>
      cases hother with
      | own fallback hsame => rw [hfunctional _ _ _ hstands hsame]
      | fallback fallback hnone => exact absurd hstands (hnone _)
  | fallback fallback hnone =>
      cases hother with
      | own fallback hstands => exact absurd hstands (hnone _)
      | fallback => rfl
  | visible hstands hvisible =>
      cases hother with
      | visible hsame => rw [hfunctional _ _ _ hstands hsame]
      | blank hsame hblank =>
          obtain ⟨character, hmem, hshown⟩ := hvisible
          obtain rfl := hfunctional _ _ _ hstands hsame
          simp [hblank character hmem] at hshown
      | invisible hnone => exact absurd hstands (hnone _)
  | blank hstands hblank =>
      cases hother with
      | visible hsame hvisible =>
          obtain ⟨character, hmem, hshown⟩ := hvisible
          obtain rfl := hfunctional _ _ _ hstands hsame
          simp [hblank character hmem] at hshown
      | blank => rfl
      | invisible => rfl
  | invisible hnone =>
      cases hother with
      | visible hstands => exact absurd hstands (hnone _)
      | blank => rfl
      | invisible => rfl
  | present hstands =>
      cases hother with
      | present => rfl
      | absent hnone => exact absurd hstands (hnone _)
  | absent hnone =>
      cases hother with
      | present hstands => exact absurd hstands (hnone _)
      | absent => rfl
  | listed hmem hordered =>
      cases hother with
      | listed hsame hlater =>
          apply congrArg Answer.bindings
          apply List.Perm.eq_of_pairwise _ hordered hlater
          · apply (List.perm_ext_iff_of_nodup (nodup_of_pairwise hordered)
              (nodup_of_pairwise hlater)).mpr
            intro binding
            exact (hmem _ _).trans (hsame _ _).symm
          · intro left right _ _ hbelow habove
            exact absurd habove (List.lt_asymm hbelow)

/-- Two right answers of its own are all that a provider needs. -/
theorem of_provider {provider : Provider}
    (hget : ∀ name, Answers Stands (.get name) (.value (provider.get name)))
    (hbindings : Answers Stands .bindings (.bindings provider.bindings)) (question : Question) :
    Answers Stands question (Environment.answer provider question) := by
  cases question with
  | get name => exact hget name
  | getOr name fallback =>
      have hown := hget name
      dsimp only [Environment.answer, Provider.getOr]
      generalize provider.get name = result at hown ⊢
      cases hown with
      | found hstands => exact .own fallback hstands
      | missing hnone => exact .fallback fallback hnone
  | getVisible? name =>
      have hown := hget name
      dsimp only [Environment.answer, Provider.getVisible?]
      generalize provider.get name = result at hown ⊢
      cases hown with
      | missing hnone => exact .invisible hnone
      | @found _ value hstands =>
          simp only [Except.toOption, Option.filter_some]
          cases hblank : Text.isBlankText value with
          | true => exact .blank hstands (List.all_eq_true.mp hblank)
          | false =>
              apply Answers.visible hstands
              simpa [Text.isBlankText] using hblank
  | contains name =>
      have hown := hget name
      dsimp only [Environment.answer, Provider.contains]
      generalize provider.get name = result at hown ⊢
      cases hown with
      | found hstands => exact .present hstands
      | missing hnone => exact .absent hnone
  | bindings => exact hbindings

end Answers

theorem answers_answer (changes : List Change) (question : Question) :
    Answers (Change.Stands changes) question (answer (ofChanges changes).provider question) := by
  apply Answers.of_provider
  · intro name
    rw [get_provider]
    cases hget : (ofChanges changes).get name with
    | ok value => exact .found (get_ofChanges_iff.mp hget)
    | error missing =>
        have hnone (value : String) : ¬ Change.Stands changes name value := by
          intro hstands
          rw [get_ofChanges_iff.mpr hstands] at hget
          contradiction
        have hmissing : (ofChanges changes).get name = .error ⟨name⟩ := by
          apply get_eq_error_of_absent (ordered_ofChanges changes)
          intro value
          rw [mem_ofChanges_iff]
          exact hnone value
        obtain rfl := Except.error.inj (hget.symm.trans hmissing)
        exact .missing hnone
  · apply Answers.listed
    · intro name value
      exact mem_ofChanges_iff
    · apply (ordered_ofChanges changes).imp
      intro left right hbelow
      exact Text.octets_lt_octets hbelow

theorem answers_iff {changes : List Change} {question : Question} {given : Answer} :
    Answers (Change.Stands changes) question given ↔
      given = answer (ofChanges changes).provider question := by
  constructor
  · intro hgiven
    apply Answers.unique _ hgiven (answers_answer changes question)
    intro name first second hfirst hsecond
    rw [← get_ofChanges_iff] at hfirst hsecond
    exact Except.ok.inj (hfirst.symm.trans hsecond)
  · intro hgiven
    rw [hgiven]
    exact answers_answer changes question

/-! Changes and questions, one after the other. A question is put to the environment itself or
through references to it, and is asked of what the changes before it have left. A change that is
made through a reference is made to the environment itself. -/

inductive Request
  | change (change : Change)
  | ask (references : Nat) (question : Question)
  deriving DecidableEq, Repr

def performed (environment : Environment) : Request → Option Answer × Environment
  | .change change => (none, environment.changed change)
  | .ask references question =>
      (some (answer (Provider.shared^[references] environment.provider) question), environment)

def run (environment : Environment) : List Request → List (Option Answer) × Environment
  | [] => ([], environment)
  | request :: rest =>
      let (given, next) := environment.performed request
      let (others, last) := next.run rest
      (given :: others, last)

def Request.change? : Request → Option Change
  | .change made => some made
  | .ask _ _ => none

variable {request : Request} {requests : List Request}

theorem performed_ask (environment : Environment) (references : Nat) (question : Question) :
    environment.performed (.ask references question) =
      (some (answer environment.provider question), environment) := by
  rw [performed, Provider.shared_iterate]

theorem run_ofChanges (changes : List Change) (requests : List Request) :
    ((ofChanges changes).run requests).2 =
      ofChanges (changes ++ requests.filterMap Request.change?) := by
  induction requests generalizing changes with
  | nil => simp [run]
  | cons request rest induction =>
      cases request with
      | change change =>
          have hrest := induction (changes ++ [change])
          rw [ofChanges_concat, List.append_assoc] at hrest
          exact hrest
      | ask references question =>
          exact induction changes

theorem run_append (environment : Environment) (before after : List Request) :
    environment.run (before ++ after) =
      ((environment.run before).1 ++ ((environment.run before).2.run after).1,
        ((environment.run before).2.run after).2) := by
  induction before generalizing environment with
  | nil => rfl
  | cons request rest induction => simp [run, induction]

theorem length_run (environment : Environment) (requests : List Request) :
    (environment.run requests).1.length = requests.length := by
  induction requests generalizing environment with
  | nil => rfl
  | cons request rest induction => simp [run, induction]

theorem getElem?_run {index : Nat} (environment : Environment)
    (hrequest : requests[index]? = some request) :
    (environment.run requests).1[index]? =
      some ((environment.run (requests.take index)).2.performed request).1 := by
  induction requests generalizing environment index with
  | nil => simp at hrequest
  | cons first rest induction =>
      cases index with
      | zero =>
          obtain rfl := Option.some.inj hrequest
          rfl
      | succ index => exact induction _ hrequest

theorem answer_eq_of_get {first second : Provider} {question : Question}
    (hname : question.name? = some name) (hget : first.get name = second.get name) :
    answer first question = answer second question := by
  cases question <;> cases hname <;>
    simp only [answer, Provider.getOr, Provider.getVisible?, Provider.contains, hget]

theorem get_ofChanges_of_spared {change : Change} (hspared : ¬ change.Concerns name)
    (before after : List Change) :
    (ofChanges (before ++ change :: after)).get name = (ofChanges (before ++ after)).get name := by
  have hlookup : (ofChanges (before ++ change :: after)).bindings.lookup name =
      (ofChanges (before ++ after)).bindings.lookup name := by
    ext value
    rw [lookup_eq_some_iff (ordered_ofChanges _), lookup_eq_some_iff (ordered_ofChanges _),
      mem_ofChanges_iff, mem_ofChanges_iff, Change.stands_append_cons_iff hspared]
  unfold get
  rw [hlookup]

/-- The answer to a question is the one that the changes before it make right, those of the
first bindings among them. It is not altered by changes that concern other names, and no
question alters anything. -/
theorem questioned_run (pairs : List (String × String)) (requests : List Request) :
    (∀ index references question, requests[index]? = some (.ask references question) →
      ∃ given, ((ofList pairs).run requests).1[index]? = some (some given) ∧
        ∀ other, Answers (Change.Stands (initial pairs ++
          (requests.take index).filterMap Request.change?)) question other ↔ other = given) ∧
    (∀ before change after references question name,
      requests = before ++ .change change :: after →
      question.name? = some name → ¬ change.Concerns name →
        answer (Provider.shared^[references] ((ofList pairs).run requests).2.provider) question =
          answer (Provider.shared^[references]
            ((ofList pairs).run (before ++ after)).2.provider) question) ∧
    (∀ before references question after, requests = before ++ .ask references question :: after →
      (ofList pairs).run (before ++ after) =
        (((ofList pairs).run requests).1.eraseIdx before.length,
          ((ofList pairs).run requests).2)) := by
  rw [ofList_eq_ofChanges]
  refine ⟨?_, ?_, ?_⟩
  · intro index references question hrequest
    refine ⟨_, ?_, fun other => answers_iff⟩
    rw [getElem?_run _ hrequest, run_ofChanges, performed_ask]
  · intro before change after references question name hrequests hname hspared
    apply answer_eq_of_get hname
    simp only [Provider.shared_iterate, hrequests, run_ofChanges, get_provider,
      List.filterMap_append]
    rw [← List.append_assoc, ← List.append_assoc]
    exact get_ofChanges_of_spared hspared _ _
  · intro before references question after hrequests
    rw [hrequests, run_append, run_append]
    have hindex : before.length = ((ofChanges (initial pairs)).run before).1.length :=
      (length_run _ _).symm
    simp [hindex, run, performed_ask, List.eraseIdx_append_of_length_le]

theorem questioned_run_of_repeated_name :
    ∃ given,
      ((ofList [("A", "1"), ("B", " "), ("A", "2")]).run
        [.change (.remove "B"), .change (.set "C" "3"), .ask 1 .bindings]).1[2]? =
          some (some given) ∧
      (∀ other, Answers (Change.Stands [.set "A" "1", .set "B" " ", .set "A" "2", .remove "B",
        .set "C" "3"]) .bindings other ↔ other = given) ∧
      given = .bindings [("A", "2"), ("C", "3")] := by
  obtain ⟨given, hgiven, honly⟩ := (questioned_run [("A", "1"), ("B", " "), ("A", "2")]
    [.change (.remove "B"), .change (.set "C" "3"), .ask 1 .bindings]).1 2 1 .bindings rfl
  refine ⟨given, hgiven, honly, ?_⟩
  have hlisted : ((ofList [("A", "1"), ("B", " "), ("A", "2")]).run
      [.change (.remove "B"), .change (.set "C" "3"), .ask 1 .bindings]).1[2]? =
        some (some (.bindings [("A", "2"), ("C", "3")])) := by
    rfl
  exact Option.some.inj (Option.some.inj (hgiven.symm.trans hlisted))

end Environment

end CodeFormatting
