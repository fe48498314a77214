import CodeFormatting.Ktfmt.Java
import CodeFormatting.Proofs.Environment
import CodeFormatting.Proofs.Warnings
namespace CodeFormatting.Ktfmt

open SearchPath (Search)

/-! Which java is taken. One that was given is taken as it is, then comes the one in the java
home directory, and the last that is asked is the search path. How the search path is searched is
left open. -/

inductive OnPath (search : Search) (environment : Environment) (machine : Machine) :
    Except JavaError Path → Prop
  | found {text : String} {java : Path} (hset : environment.Shows "PATH" text)
      (hfound : search (some text) machine.home machine.directory machine.files = some java) :
      OnPath search environment machine (.ok java)
  | unfound
      (hnone : ∀ text, environment.Shows "PATH" text →
        search (some text) machine.home machine.directory machine.files = none) :
      OnPath search environment machine (.error .javaNotFound)

inductive Resolved (search : Search) (loader : JavaLoader) (machine : Machine) :
    Except JavaError Path → Prop
  | given {java : Path} (hgiven : loader.java = some java) :
      Resolved search loader machine (.ok java)
  | home {home : String} (hnone : loader.java = none)
      (hset : loader.environment.Shows "JAVA_HOME" home)
      (hfile : machine.isFile (JavaLoader.javaIn home) = true) :
      Resolved search loader machine (.ok (JavaLoader.javaIn home))
  | searched {answer : Except JavaError Path} (hnone : loader.java = none)
      (hhome : ∀ home, loader.environment.Shows "JAVA_HOME" home →
        machine.isFile (JavaLoader.javaIn home) = false)
      (hpath : OnPath search loader.environment machine answer) :
      Resolved search loader machine answer

/-- A java home directory that is asked for its java has none. -/
structure Dangles (loader : JavaLoader) (machine : Machine) (home : String) : Prop where
  asked : loader.java = none
  set : loader.environment.Shows "JAVA_HOME" home
  absent : machine.isFile (JavaLoader.javaIn home) = false

inductive Warned (loader : JavaLoader) (machine : Machine) : List Log.Record → Prop
  | dangling {home : String} (hdangles : Dangles loader machine home) :
      Warned loader machine [⟨.warn, javaTarget, JavaLoader.missingJava home⟩]
  | silent (hnone : ∀ home, ¬ Dangles loader machine home) : Warned loader machine []

section

variable {search : Search} {environment : Environment} {loader : JavaLoader} {machine : Machine}
  {answer other : Except JavaError Path} {java : Path} {home text : String}
  {records : List Log.Record}

theorem OnPath.eq (hpath : OnPath search environment machine answer)
    (hother : OnPath search environment machine other) : answer = other := by
  cases hpath with
  | found hset hfound =>
      cases hother with
      | found hshows hsame =>
          rw [hset.eq hshows, hsame] at hfound
          rw [Option.some.inj hfound]
      | unfound hnone =>
          rw [hnone _ hset] at hfound
          contradiction
  | unfound hnone =>
      cases hother with
      | found hset hfound =>
          rw [hnone _ hset] at hfound
          contradiction
      | unfound => rfl

theorem OnPath.of_written (hpath : OnPath search environment (machine.written records) answer) :
    OnPath search environment machine answer := by
  cases hpath with
  | found hset hfound => exact .found hset hfound
  | unfound hnone => exact .unfound hnone

theorem Resolved.eq_of_given (hresolved : Resolved search loader machine answer)
    (hgiven : loader.java = some java) : answer = .ok java := by
  cases hresolved with
  | given hjava =>
      rw [hgiven] at hjava
      rw [Option.some.inj hjava]
  | home hnone => exact absurd (hgiven.symm.trans hnone) nofun
  | searched hnone => exact absurd (hgiven.symm.trans hnone) nofun

theorem Resolved.eq_of_home (hresolved : Resolved search loader machine answer)
    (hnone : loader.java = none) (hset : loader.environment.Shows "JAVA_HOME" home)
    (hfile : machine.isFile (JavaLoader.javaIn home) = true) :
    answer = .ok (JavaLoader.javaIn home) := by
  cases hresolved with
  | given hgiven => exact absurd (hgiven.symm.trans hnone) nofun
  | home _ hshows => rw [hset.eq hshows]
  | searched _ hhome =>
      rw [hhome home hset] at hfile
      contradiction

theorem Resolved.onPath (hresolved : Resolved search loader machine answer)
    (hnone : loader.java = none)
    (hhome : ∀ home, loader.environment.Shows "JAVA_HOME" home →
      machine.isFile (JavaLoader.javaIn home) = false) :
    OnPath search loader.environment machine answer := by
  cases hresolved with
  | given hgiven => exact absurd (hgiven.symm.trans hnone) nofun
  | home _ hset hfile =>
      rw [hhome _ hset] at hfile
      contradiction
  | searched _ _ hpath => exact hpath

theorem Resolved.eq (hresolved : Resolved search loader machine answer)
    (hother : Resolved search loader machine other) : answer = other := by
  cases hother with
  | given hgiven => exact hresolved.eq_of_given hgiven
  | home hnone hset hfile => exact hresolved.eq_of_home hnone hset hfile
  | searched hnone hhome hpath => exact (hresolved.onPath hnone hhome).eq hpath

theorem Dangles.absent_of_shows (hdangles : Dangles loader machine home)
    (hset : loader.environment.Shows "JAVA_HOME" text) :
    machine.isFile (JavaLoader.javaIn text) = false := by
  rw [hset.eq hdangles.set]
  exact hdangles.absent

/-! What is found is what there is to be found. -/

theorem search_on_eq_of_shows (hset : environment.Shows "PATH" text) :
    search.on machine environment =
      search (some text) machine.home machine.directory machine.files := by
  rw [Search.on, Environment.getVisible?_eq_some_iff.mpr hset]

theorem exists_shows_of_search_on
    (hpathless : ∀ home directory files, search none home directory files = none)
    (hfound : search.on machine environment = some java) :
    ∃ text, environment.Shows "PATH" text := by
  rw [Search.on] at hfound
  cases hset : environment.getVisible? "PATH" with
  | none =>
      rw [hset, hpathless] at hfound
      contradiction
  | some text => exact ⟨text, Environment.getVisible?_eq_some_iff.mp hset⟩

theorem exists_writes_onSearchPath
    (hpathless : ∀ home directory files, search none home directory files = none)
    (loader : JavaLoader) (machine : Machine) :
    ∃ answer records, Writes (loader.onSearchPath search) machine answer records ∧
      OnPath search loader.environment machine answer ∧ Log.warnings records = [] := by
  simp only [JavaLoader.onSearchPath, writes_get_iff]
  cases hfound : search.on machine loader.environment with
  | some java =>
      obtain ⟨text, hset⟩ := exists_shows_of_search_on hpathless hfound
      rw [search_on_eq_of_shows hset] at hfound
      exact ⟨_, _, writes_pure .., .found hset hfound, rfl⟩
  | none =>
      refine ⟨_, _, writes_log_pure .., .unfound fun text hset => ?_, rfl⟩
      rwa [search_on_eq_of_shows hset] at hfound

theorem writes_resolveJavaBy_of_home (hnone : loader.java = none)
    (hset : loader.environment.Shows "JAVA_HOME" home)
    (hfile : machine.isFile (JavaLoader.javaIn home) = true) :
    Writes (loader.resolveJavaBy search) machine (.ok (JavaLoader.javaIn home))
      [⟨.debug, javaTarget,
        "Using java from JAVA_HOME: " ++ (JavaLoader.javaIn home).text⟩] := by
  simp only [JavaLoader.resolveJavaBy, hnone, Environment.getVisible?_eq_some_iff.mpr hset,
    writes_get_iff, hfile, if_true]
  exact writes_log_pure ..

theorem exists_writes_resolveJavaBy_of_dangling
    (hpathless : ∀ home directory files, search none home directory files = none)
    (hdangles : Dangles loader machine home) :
    ∃ answer records, Writes (loader.resolveJavaBy search) machine answer records ∧
      OnPath search loader.environment machine answer ∧
        Log.warnings records = [⟨.warn, javaTarget, JavaLoader.missingJava home⟩] := by
  obtain ⟨answer, records, hwrites, hpath, hquiet⟩ := exists_writes_onSearchPath hpathless loader
    (machine.written [⟨.warn, javaTarget, JavaLoader.missingJava home⟩])
  refine ⟨answer, [⟨.warn, javaTarget, JavaLoader.missingJava home⟩] ++ records, ?_,
    hpath.of_written, ?_⟩
  · simp only [JavaLoader.resolveJavaBy, hdangles.asked,
      Environment.getVisible?_eq_some_iff.mpr hdangles.set, writes_get_iff, hdangles.absent,
      Bool.false_eq_true, if_false]
    exact (writes_log ..).bind hwrites
  · rw [Log.warnings_append, hquiet]
    rfl

theorem exists_writes_resolveJavaBy_of_unset
    (hpathless : ∀ home directory files, search none home directory files = none)
    (hnone : loader.java = none)
    (hunset : ∀ home, ¬ loader.environment.Shows "JAVA_HOME" home) (machine : Machine) :
    ∃ answer records, Writes (loader.resolveJavaBy search) machine answer records ∧
      OnPath search loader.environment machine answer ∧ Log.warnings records = [] := by
  simp only [JavaLoader.resolveJavaBy, hnone, Environment.getVisible?_eq_none_iff.mpr hunset]
  exact exists_writes_onSearchPath hpathless loader machine

theorem exists_writes_resolveJavaBy
    (hpathless : ∀ home directory files, search none home directory files = none)
    (loader : JavaLoader) (machine : Machine) :
    ∃ answer records, Writes (loader.resolveJavaBy search) machine answer records ∧
      Resolved search loader machine answer ∧ Warned loader machine (Log.warnings records) := by
  cases hjava : loader.java with
  | some java =>
      refine ⟨.ok java, [], ?_, .given hjava, .silent fun home hdangles => ?_⟩
      · rw [JavaLoader.resolveJavaBy, hjava]
        exact writes_pure ..
      · exact nomatch hjava.symm.trans hdangles.asked
  | none =>
      by_cases hset : ∃ home, loader.environment.Shows "JAVA_HOME" home
      · obtain ⟨home, hset⟩ := hset
        cases hfile : machine.isFile (JavaLoader.javaIn home) with
        | true =>
            refine ⟨_, _, writes_resolveJavaBy_of_home hjava hset hfile, .home hjava hset hfile,
              .silent fun other hdangles => ?_⟩
            rw [hdangles.absent_of_shows hset] at hfile
            contradiction
        | false =>
            have hdangles : Dangles loader machine home := ⟨hjava, hset, hfile⟩
            obtain ⟨answer, records, hwrites, hpath, hwarnings⟩ :=
              exists_writes_resolveJavaBy_of_dangling hpathless hdangles
            refine ⟨answer, records, hwrites,
              .searched hjava (fun other hother => hdangles.absent_of_shows hother) hpath, ?_⟩
            rw [hwarnings]
            exact .dangling hdangles
      · have hunset := not_exists.mp hset
        obtain ⟨answer, records, hwrites, hpath, hwarnings⟩ :=
          exists_writes_resolveJavaBy_of_unset hpathless hjava hunset machine
        refine ⟨answer, records, hwrites,
          .searched hjava (fun home hhome => absurd hhome (hunset home)) hpath, ?_⟩
        rw [hwarnings]
        exact .silent fun home hdangles => hunset home hdangles.set

/-- All that is looked up in an environment is looked up unless it is blank. -/
theorem resolveJavaBy_congr (search : Search) {changed : JavaLoader}
    (hjava : loader.java = changed.java)
    (hsame : ∀ name, loader.environment.getVisible? name = changed.environment.getVisible? name) :
    loader.resolveJavaBy search = changed.resolveJavaBy search := by
  simp only [JavaLoader.resolveJavaBy, JavaLoader.onSearchPath, Search.on, SearchPath.refusal,
    hjava, hsame]

end

/-- A search that needs a search path leaves one answer for each environment and machine. Nothing
but records is left behind, and of these only a java home directory without java gives a
warning. -/
theorem java_resolution (search : Search)
    (hpathless : ∀ home directory files, search none home directory files = none)
    (loader : JavaLoader) :
    (∀ java, loader.java = some java → loader.resolveJavaBy search = pure (.ok java)) ∧
    (∀ machine, ∃ answer records,
      loader.resolveJavaBy search machine = (answer, machine.written records) ∧
      (∀ other, Resolved search loader machine other ↔ other = answer) ∧
      Warned loader machine (Log.warnings records)) ∧
    ∀ name blank, Text.isBlankText blank = true →
      ({ loader with environment := loader.environment.set name blank }
          : JavaLoader).resolveJavaBy search =
        ({ loader with environment := loader.environment.remove name }
          : JavaLoader).resolveJavaBy search := by
  refine ⟨?_, ?_, ?_⟩
  · intro java hjava
    rw [JavaLoader.resolveJavaBy, hjava]
  · intro machine
    obtain ⟨answer, records, hwrites, hresolved, hwarned⟩ :=
      exists_writes_resolveJavaBy hpathless loader machine
    refine ⟨answer, records, hwrites, fun other => ⟨?_, ?_⟩, hwarned⟩
    · exact fun hother => hother.eq hresolved
    · rintro rfl
      exact hresolved
  · intro name blank hblank
    exact resolveJavaBy_congr search rfl (Environment.getVisible?_set_of_blank hblank _ name)

/-! The java home directory has a directory where its java should be, and the second directory of
the search path has a java. -/

namespace Misplaced

def loader : JavaLoader :=
  .ofEnvironment (.ofList [("JAVA_HOME", "/jvm"), ("PATH", "/sbin:/bin")])

def host : Machine where
  files := (FileSystem.empty.install ["java", "bin", "jvm"] .directory).install ["java", "bin"]
    (.file .empty true)
  directory := ⟨"/"⟩
  home := none
  execute files _ _ := (files, .error .notFound)
  journal := []

theorem dangles : Dangles loader host "/jvm" :=
  ⟨rfl, ⟨by decide, by decide⟩, by decide⟩

end Misplaced

theorem java_resolution_of_misplaced :
    (∀ home directory files, SearchPath.first "java" none home directory files = none) ∧
      ∃ records, Misplaced.loader.resolveJava Misplaced.host =
          (.ok ⟨"/bin/java"⟩, Misplaced.host.written records) ∧
        Log.warnings records = [⟨.warn, javaTarget, JavaLoader.missingJava "/jvm"⟩] := by
  have hpathless (home : Option Path) (directory : Path) (files : FileSystem) :
      SearchPath.first "java" none home directory files = none := rfl
  obtain ⟨-, hruns, -⟩ :=
    java_resolution (SearchPath.first "java") hpathless Misplaced.loader
  obtain ⟨answer, records, hrun, hanswer, hwarned⟩ := hruns Misplaced.host
  have hdangles := Misplaced.dangles
  have hfound : SearchPath.first "java" (some "/sbin:/bin") none ⟨"/"⟩ Misplaced.host.files =
      some ⟨"/bin/java"⟩ := by decide
  have hpath : OnPath (SearchPath.first "java") Misplaced.loader.environment Misplaced.host
      (.ok ⟨"/bin/java"⟩) := .found ⟨by decide, by decide⟩ hfound
  have hresolved : Resolved (SearchPath.first "java") Misplaced.loader Misplaced.host
      (.ok ⟨"/bin/java"⟩) :=
    .searched hdangles.asked (fun home hset => hdangles.absent_of_shows hset) hpath
  rw [← (hanswer _).mp hresolved] at hrun
  refine ⟨hpathless, records, hrun, ?_⟩
  generalize Log.warnings records = warnings at hwarned
  cases hwarned with
  | dangling hother => rw [hother.set.eq hdangles.set]
  | silent hnone => exact absurd hdangles (hnone _)

end CodeFormatting.Ktfmt
