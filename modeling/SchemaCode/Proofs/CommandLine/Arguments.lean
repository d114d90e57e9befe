import Mathlib.Tactic.Lemma
import SchemaCode.CommandLine.Run

namespace SchemaCode.CommandLine

lemma ofString_of_isValue {word : String} (h : isValue word = true) : Token.ofString word = .word word := by
  have hword : ∀ {text}, Token.ofString word = .word text → text = word := by
    intro text h
    unfold Token.ofString at h
    dsimp only at h
    split at h
    · cases h
    · split at h <;> cases h
    · exact (Token.word.inj h).symm
    · cases h
    · exact (Token.word.inj h).symm
  cases htoken : Token.ofString word with
  | word text => rw [hword htoken]
  | _ =>
    rw [isValue, htoken] at h
    cases h

lemma isValue_id (f : Format) : isValue f.id = true := by
  cases f <;> rfl

namespace Destination

def arguments : Destination → List String
  | .standardOutput => []
  | .file path => ["-o", path]
  | .directory path => ["--download", path]
  | .everything path => ["--all", path]

def Spellable : Destination → Prop
  | .standardOutput => True
  | .file path => isValue path = true ∧ path ≠ ""
  | .directory path => isValue path = true ∧ path ≠ ""
  | .everything path => isValue path = true ∧ path ≠ ""

end Destination

lemma parseFrom_destination {g : Given} {destination : Destination} {schema format : String}
    (hg : g = { schema := some schema, format := g.format }) (hformat : g.format.getD "prisma" = format)
    (h : destination.Spellable) : parseFrom g destination.arguments = some (.run ⟨schema, format, destination⟩) := by
  have houtput : Token.ofString "-o" = .short ['o'] := rfl
  have hdownload : Token.ofString "--download" = .long "download" none := rfl
  have hall : Token.ofString "--all" = .long "all" none := rfl
  rw [hg]
  cases destination with
  | standardOutput => simp [parseFrom, Destination.arguments, Given.command?, hformat]
  | file path =>
    simp [parseFrom, Destination.arguments, houtput, OptionName.ofShort?, attached?, h.1, h.2, Given.option?, Given.get,
      Given.set, Given.command?, hformat]
  | directory directory =>
    simp [parseFrom, Destination.arguments, hdownload, OptionName.ofLong?, h.1, h.2, Given.option?, Given.get,
      Given.set, Given.command?, hformat]
  | everything directory =>
    simp [parseFrom, Destination.arguments, hall, OptionName.ofLong?, h.1, h.2, Given.option?, Given.get,
      Given.set, Given.command?, hformat]

lemma parse_arguments {schema : String} {destination : Destination} (hvalue : isValue schema = true)
    (hschema : schema ≠ "") (h : destination.Spellable) (f : Format) :
    parse (schema :: destination.arguments) = some (.run ⟨schema, "prisma", destination⟩) ∧
      parse (schema :: "-f" :: f.id :: destination.arguments) = some (.run ⟨schema, f.id, destination⟩) := by
  have hoption : Token.ofString "-f" = .short ['f'] := rfl
  have hword : ∀ rest, parse (schema :: rest) = parseFrom { schema := some schema } rest := by
    intro rest
    simp [parse, parseFrom, ofString_of_isValue hvalue, Given.word?, hschema]
  rw [hword, hword]
  refine ⟨parseFrom_destination rfl rfl h, ?_⟩
  rw [parseFrom, hoption]
  simp only [OptionName.ofShort?, attached?, isValue_id, Given.option?]
  exact parseFrom_destination rfl rfl h

end SchemaCode.CommandLine
