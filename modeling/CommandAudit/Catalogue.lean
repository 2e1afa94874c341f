import CommandAudit.Text
import CommandAudit.Text.Sorted

/-!
# Known names

A catalogue lists the names that count as known: stages that are always consulted, and one further
entry for each platform. `Catalogue.setsFor` lays out the sets that one scan consults, in order.
-/

namespace CommandAudit

/-- A named set of names that count as known. Membership is equality of the whole name. -/
structure KnownNames where
  /-- The short name of the set. -/
  name : Text
  /-- What the set holds, for readers. -/
  label : Text
  /-- The names. -/
  names : List Text
  deriving DecidableEq, Repr

/-- Whether the set holds `term`. -/
def KnownNames.contains (k : KnownNames) (term : String) : Bool :=
  k.names.contains (.string term)

/-- The names of the set, sorted and each once. -/
def KnownNames.distinctNames (k : KnownNames) : List Text :=
  sortDistinct Text.le k.names

/-- An entry of a catalogue. -/
structure CatalogueEntry where
  /-- The short name, if the entry has one. -/
  name : Option Text := none
  /-- What the entry holds. -/
  label : Text
  /-- The names. -/
  names : List Text := []
  deriving DecidableEq, Repr

/-- The entry as a set of known names, under `fallback` if it has no name of its own. -/
def CatalogueEntry.toKnownNames (e : CatalogueEntry) (fallback : Text) : KnownNames :=
  { name := (e.name.filter (!·.isEmpty)).getD fallback, label := e.label, names := e.names }

/-- The known names: stages that are always consulted, and one entry for each platform. -/
structure Catalogue where
  /-- The entries consulted in every scan, in order. -/
  stages : List CatalogueEntry := []
  /-- The entries of the platforms. -/
  platforms : List (Text × CatalogueEntry) := []
  deriving DecidableEq, Repr

namespace Catalogue

/-- The names of the platforms, sorted. -/
def platformNames (c : Catalogue) : List Text :=
  (c.platforms.map Prod.fst).mergeSort Text.le

/-- The sets consulted for a script: its own names, the stages, the platform, and the names added
by the user, if there are any. There are none for an unknown platform. -/
def setsFor? (c : Catalogue) (declared : List String) (platform : Text) (extra : List Text) :
    Option (List KnownNames) :=
  (c.platforms.lookup platform).map fun entry =>
    ⟨"declared", "functions and variables", declared.map .string⟩ ::
      c.stages.zipIdx.map (fun (e, i) => e.toKnownNames s!"stage{i + 1}") ++
      entry.toKnownNames platform ::
      if extra.isEmpty then [] else [⟨"user", "user-configured commands", extra⟩]

end Catalogue

end CommandAudit
