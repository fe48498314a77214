import Mathlib.Data.List.Induction
import CodeFormatting.Ktfmt.Builder
import CodeFormatting.Proofs.Text
namespace CodeFormatting.Ktfmt

/-! What a builder has collected after any sequence of settings: of each kind, the one that was
given last. -/

variable {World : Type}

inductive Setting (World : Type)
  | version (text : String)
  | provisioner (provisioner : Provisioner World)
  | style (style : Style)
  | loader (loader : Loader World)
  | classifier (classifier : Option String)

namespace Setting

def version? : Setting World → Option String
  | .version text => some text
  | _ => none

def provisioner? : Setting World → Option (Provisioner World)
  | .provisioner given => some given
  | _ => none

def style? : Setting World → Option Style
  | .style given => some given
  | _ => none

def loader? : Setting World → Option (Loader World)
  | .loader given => some given
  | _ => none

def classifier? : Setting World → Option (Option String)
  | .classifier given => some given
  | _ => none

def last? {Value : Type} (given : Setting World → Option Value)
    (settings : List (Setting World)) : Option Value :=
  (settings.filterMap given).getLast?

/-- The classifier that the settings ask for. -/
def asked (settings : List (Setting World)) : Option String :=
  match last? classifier? settings with
  | none => some selfContained
  | some none => none
  | some (some text) => if Text.isBlankText text then none else some (Text.trim text)

theorem asked_eq_some {settings : List (Setting World)} {classifier : String}
    (hasked : asked settings = some classifier) :
    classifier ≠ "" ∧ Text.trim classifier = classifier := by
  unfold asked at hasked
  split at hasked
  · cases hasked
    decide
  · cases hasked
  · next text hlast =>
      split at hasked
      · cases hasked
      · next hvisible =>
          cases hasked
          exact ⟨mt (Text.isBlankText_iff text).mpr hvisible, Text.trim_trim text⟩

end Setting

namespace Builder

def apply (builder : Builder World) : Setting World → Builder World
  | .version text => builder.version text
  | .provisioner provisioner => builder.provisioner provisioner
  | .style style => builder.style style
  | .loader loader => builder.loader loader
  | .classifier classifier => builder.classifier classifier

def ofSettings (settings : List (Setting World)) : Builder World :=
  settings.foldl apply empty

theorem read_foldl_apply {Field Value : Type} {read : Builder World → Field}
    {given : Setting World → Option Value} {keep : Value → Field}
    (hread : ∀ builder setting,
      read (builder.apply setting) = (given setting).elim (read builder) keep)
    (settings : List (Setting World)) (builder : Builder World) :
    read (settings.foldl apply builder) =
      (Setting.last? given settings).elim (read builder) keep := by
  induction settings using List.reverseRecOn with
  | nil => rfl
  | append_singleton settings setting induction =>
      rw [List.foldl_append, List.foldl_cons, List.foldl_nil, hread, induction, Setting.last?,
        Setting.last?, List.filterMap_append]
      cases hgiven : given setting <;> simp [hgiven]

theorem last?_of_read {Value : Type} {read : Builder World → Option Value}
    {given : Setting World → Option Value} (hempty : read empty = none)
    (hread : ∀ builder setting,
      read (builder.apply setting) = (given setting).elim (read builder) some)
    (settings : List (Setting World)) :
    read (ofSettings settings) = Setting.last? given settings := by
  rw [ofSettings, read_foldl_apply hread, hempty]
  cases Setting.last? given settings <;> rfl

theorem version?_ofSettings (settings : List (Setting World)) :
    (ofSettings settings).version? = Setting.last? Setting.version? settings := by
  refine last?_of_read rfl ?_ settings
  rintro builder (_ | _ | _ | _ | _) <;> rfl

theorem provisioner?_ofSettings (settings : List (Setting World)) :
    (ofSettings settings).provisioner? = Setting.last? Setting.provisioner? settings := by
  refine last?_of_read rfl ?_ settings
  rintro builder (_ | _ | _ | _ | _) <;> rfl

theorem style?_ofSettings (settings : List (Setting World)) :
    (ofSettings settings).style? = Setting.last? Setting.style? settings := by
  refine last?_of_read rfl ?_ settings
  rintro builder (_ | _ | _ | _ | _) <;> rfl

theorem loader?_ofSettings (settings : List (Setting World)) :
    (ofSettings settings).loader? = Setting.last? Setting.loader? settings := by
  refine last?_of_read rfl ?_ settings
  rintro builder (_ | _ | _ | _ | _) <;> rfl

theorem map_classifier?_ofSettings (settings : List (Setting World)) :
    (ofSettings settings).classifier?.map Text.trim = Setting.asked settings := by
  have hclassifier : (ofSettings settings).classifier? =
      (Setting.last? Setting.classifier? settings).elim (some selfContained)
        (Option.filter fun text => !Text.isBlankText text) := by
    refine read_foldl_apply ?_ settings empty
    rintro builder (_ | _ | _ | _ | _) <;> rfl
  rw [hclassifier, Setting.asked]
  rcases Setting.last? Setting.classifier? settings with _ | _ | text
  · rfl
  · rfl
  · cases hblank : Text.isBlankText text <;> simp [hblank]

end Builder

end CodeFormatting.Ktfmt
