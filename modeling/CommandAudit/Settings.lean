import CommandAudit.Path
import CommandAudit.Scan.Options
import CommandAudit.Validation

/-!
# Settings

What a scan can be configured with: the bounds for the size of a script, the platform, the escape
mode, further known names and the file that holds the catalogue. Settings are read from a record.
Fields that are given for one run are put in front of the record of the settings, and the whole is
checked again.
-/

namespace CommandAudit

/-- The settings of a scan. -/
structure Settings where
  /-- The least size of a script, in bytes. -/
  minSize : Int := 1
  /-- The greatest size of a script, in bytes. -/
  maxSize : Int := 50000
  /-- The platform whose names count as known. -/
  platform : Text := "macos"
  /-- How quotes are escaped. -/
  escapeMode : EscapeMode := .legacy
  /-- Further known names. -/
  extraNames : List Text := []
  /-- The file of the catalogue; the bundled catalogue if absent. -/
  catalogue : Option Path := none
  deriving DecidableEq, Repr

/-- An escape mode given by its written name. -/
def Check.escapeMode : Value → Checked EscapeMode :=
  Check.word EscapeMode.ofLabel?

/-- A path given as a text. -/
def Check.path : Value → Checked Path
  | .text t => .valid (.ofText t)
  | _ => .fail .notPath

/-! ## Fields -/

/-- What a field of the settings is given as. -/
inductive FieldValue
  /-- Untyped data. -/
  | data (v : Value)
  /-- An escape mode. -/
  | escapeMode (mode : EscapeMode)
  /-- A path. -/
  | path (p : Path)

namespace FieldValue

/-- Untyped data that pass the given check. Nothing else does. -/
def check {α : Type} (fault : Fault) (ofData : Value → Checked α) : FieldValue → Checked α
  | .data v => ofData v
  | _ => .fail fault

/-- An escape mode, as such or by its written name. -/
def toEscapeMode : FieldValue → Checked EscapeMode
  | .escapeMode mode => .valid mode
  | v => v.check .notAllowed Check.escapeMode

/-- A path, as such or as a text, or nothing. -/
def toPath : FieldValue → Checked (Option Path)
  | .path p => .valid (some p)
  | v => v.check .notPath (Check.optional Check.path)

end FieldValue

/-- An entry for the named field. -/
def fieldEntry (name : String) (v : FieldValue) : Value × FieldValue :=
  (.text name, v)

namespace Settings

/-- The least value of the greatest size. -/
def leastMaxSize : Int :=
  1

/-- The wording for a least size above the greatest size, unless a number has too many digits to be
written. -/
def boundsText (least greatest : Int) : String :=
  match integerText? least, integerText? greatest with
  | some a, some b => s!"min_size ({a}) exceeds max_size ({b})"
  | _, _ =>
    s!"Exceeds the limit ({digitLimit} digits) for integer string conversion; " ++
      "use sys.set_int_max_str_digits() to increase the limit"

/-- Refuses a least size above the greatest size. -/
def checkBounds (s : Settings) : Checked Settings :=
  if s.maxSize < s.minSize then .fail (.inconsistent (boundsText s.minSize s.maxSize))
  else .valid s

/-- The settings given by their fields. -/
def ofFields (entries : List (Value × FieldValue)) : Checked Settings :=
  let fields : Checked Settings :=
    Settings.mk
      <$> Check.fieldOr entries "min_size" 1
        (FieldValue.check .notInteger (Check.integerFrom 0))
      <*> Check.fieldOr entries "max_size" 50000
        (FieldValue.check .notInteger (Check.integerFrom leastMaxSize))
      <*> Check.fieldOr entries "platform" (.string "macos") (FieldValue.check .notText Check.text)
      <*> Check.fieldOr entries "escape_mode" .legacy FieldValue.toEscapeMode
      <*> Check.fieldOr entries "extra_names" []
        (FieldValue.check .notList (Check.list Check.text))
      <*> Check.fieldOr entries "reference_sets" none FieldValue.toPath
  fields.andThen checkBounds

/-- The settings given by the entries of a record. -/
def ofRecord (entries : List (Value × Value)) : Checked Settings :=
  ofFields (entries.map fun (key, v) => (key, .data v))

/-- All fields of the settings. -/
def entries (s : Settings) : List (Value × FieldValue) :=
  [fieldEntry "min_size" (.data (.int s.minSize)),
    fieldEntry "max_size" (.data (.int s.maxSize)),
    fieldEntry "platform" (.data (.text s.platform)),
    fieldEntry "escape_mode" (.escapeMode s.escapeMode),
    fieldEntry "extra_names" (.data (.list (s.extraNames.map .text))),
    fieldEntry "reference_sets" (s.catalogue.elim (.data .null) .path)]

/-- The options of a scan under these settings. -/
def scanOptions (s : Settings) (window trace : Option LineRange := none) : ScanOptions :=
  { escapeMode := s.escapeMode, window, trace }

end Settings

/-- Fields of the settings given for one run. -/
structure Overrides where
  /-- The platform. -/
  platform : Option String := none
  /-- The escape mode. -/
  escapeMode : Option EscapeMode := none
  /-- The greatest size. -/
  maxSize : Option Int := none
  deriving DecidableEq, Repr

/-- The given fields. -/
def Overrides.entries (o : Overrides) : List (Value × FieldValue) :=
  (o.platform.map fun platform => fieldEntry "platform" (.data (.text platform))).toList ++
    (o.escapeMode.map fun mode => fieldEntry "escape_mode" (.escapeMode mode)).toList ++
    (o.maxSize.map fun size => fieldEntry "max_size" (.data (.int size))).toList

/-- The settings with the given fields replaced, if they are still valid. They are checked again if
any field is given. -/
def Settings.override (s : Settings) (o : Overrides) : Checked Settings :=
  -- Of two entries for one field the first counts.
  if o.entries.isEmpty then .valid s else ofFields (o.entries ++ s.entries)

end CommandAudit
