import CommandAudit.Catalogue
import CommandAudit.Validation

/-!
# Catalogues from records

A catalogue as a file gives it: a list of stages and a mapping of platforms. Each entry has a
label, may have a list of names and may have a short name.
-/

namespace CommandAudit

/-- An entry of a catalogue given by a record. -/
def CatalogueEntry.ofValue : Value → Checked CatalogueEntry
  | .mapping entries =>
    CatalogueEntry.mk
      <$> Check.fieldOr entries "name" none (Check.optional Check.text)
      <*> Check.requiredField entries "label" Check.text
      <*> Check.fieldOr entries "names" [] (Check.list Check.text)
  | _ => .fail .notRecord

/-- The catalogue given by the entries of a record. -/
def Catalogue.ofRecord (entries : List (Value × Value)) : Checked Catalogue :=
  Catalogue.mk
    <$> Check.fieldOr entries "stages" [] (Check.list CatalogueEntry.ofValue)
    <*> Check.fieldOr entries "platforms" [] (Check.mapping CatalogueEntry.ofValue)

end CommandAudit
