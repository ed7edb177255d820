/-
  SoundLaw.RuleSet.Book

  Rule books: collections of rule sets as they are written down. A set that is not valid as
  written is left out of its book. Two books come with the library.
-/
import SoundLaw.RuleSet

namespace SoundLaw

/-! ## Books -/

/-- A collection of rule sets, and the place where it is kept. -/
structure Book where
  place : String
  sets : List SetRecord

/-- How the names of the files of books end. -/
def Book.suffix : Text := ['.', 'p', 'y']

/-- The rule sets of a book, or only those of a name. -/
def Book.ruleSets (book : Book) (name : Option Text) : Except Error (List RuleSet) := do
  let sets ← (book.sets.filter SetRecord.isValid).mapM RuleSet.ofRecord
  return sets.filter fun s => name.all (· == s.name)

/-! ## Entries of books -/

/-- The record of a rule with the fields that are given. -/
def ruleRecord (name notated : String) (others : List (Field × Value)) : Record :=
  (Field.key .name, .text name.toList) :: (Field.key .notated, .text notated.toList)
    :: others.map fun (field, value) => (field.key, value)

/-- The order key, the description and the reference of a rule. -/
def described (orderId description url : String) : List (Field × Value) := [
  (.orderId, .text orderId.toList), (.description, .text description.toList),
  (.url, .text url.toList)]

/-! ## The standard book -/

/-- The sound changes from Primitive Elvish to Ancient Telerin. -/
def ancientTelerin : SetRecord where
  name := "ancient_telerin".toList
  rules := [
    ruleRecord "3648128347" "[\x7bptkpʰkʰbdgm\x7dV₁\x7brl\x7dV́₁-] > [\x7bptkpʰkʰbdgm\x7dø\x7brl\x7dV́₁-]"
      (described "00100" "unstressed initial syllables reduced to favored clusters"
        "https://eldamo.org/content/words/word-3648128347.html"),
    ruleRecord "171120983" "[kw|kʰw|gw|ŋgw|ŋkw|ŋw-] > [p|pʰ|b|mb|mp|m-]"
      (described "00200" "labialized velars became labials"
        "https://eldamo.org/content/words/word-171120983.html"),
    ruleRecord "1532676669" "[\x7bttʰdnl\x7dj-] > [\x7bttʰdnl\x7dø-]"
      (described "00300" "[j] was lost after initial dentals"
        "https://eldamo.org/content/words/word-1532676669.html" ++ [(.skip, .flag true)]),
    ruleRecord "1062284643" "[ln] > [ll]"
      (described "00400" "[ln] became [ll]"
        "https://eldamo.org/content/words/word-1062284643.html"),
    ruleRecord "981459769" "[-V\x7bptks\x7d] > [-Vø]"
      (described "00500" "final voiceless stops and [s] vanished in polysyllables"
        "https://eldamo.org/content/words/word-981459769.html"
        ++ [(.condition, .condition .polysyllabic)]),
    ruleRecord "e" "[\x7bmn\x7ds] > [ss]"
      (described "00600" "[ms], [ns] became [ss]"
        "https://eldamo.org/content/words/word-e.html")]

/-- The book that is used unless another one is asked for. -/
def Book.standard : Book := ⟨"<src>/soundchanger/config/rules.py", [ancientTelerin]⟩

/-! ## The sample book -/

/-- A set with conditions and references on some of its rules, not written down in order. -/
def sampleTelerin : SetRecord where
  name := "dummy_telerin".toList
  rules := [
    ruleRecord "ln" "[ln] > [ll]" [
      (.orderId, .text "00200".toList), (.description, .text "[ln] became [ll]".toList)],
    ruleRecord "final_stops" "[-V\x7bptks\x7d] > [-Vø]" [
      (.orderId, .text "00300".toList), (.condition, .condition .polysyllabic)],
    ruleRecord "reduction"
      "[\x7bptkpʰkʰbdgm\x7dV₁\x7brl\x7dV́₁-] > [\x7bptkpʰkʰbdgm\x7dø\x7brl\x7dV́₁-]" [
      (.orderId, .text "00100".toList),
      (.url, .text "https://eldamo.org/content/words/word-3648128347.html".toList)]]

/-- A set without order keys, one of whose rules is off. -/
def sampleSkip : SetRecord where
  name := "dummy_skip".toList
  rules := [
    ruleRecord "j_loss" "[\x7btdnl\x7dj-] > [\x7btdnl\x7dø-]" [(.skip, .flag true)],
    ruleRecord "ms" "[\x7bmn\x7ds] > [ss]" []]

/-- A set that is not valid: its rule has no name and no arrow. -/
def sampleInvalid : SetRecord where
  name := "broken".toList
  rules := [[(Field.key .notated, .text "no arrow".toList)]]

/-- A set whose rule depends on how compounds are divided. -/
def sampleCompound : SetRecord where
  name := "dummy_compound".toList
  rules := [
    ruleRecord "final_an" "[-an] > [-on]" [
      (.orderId, .text "00100".toList), (.condition, .condition .lightFirstSyllable)]]

/-- A small book to try things out with. -/
def Book.sample : Book :=
  ⟨"<src>/tests/dummy_rules.py", [sampleTelerin, sampleSkip, sampleInvalid, sampleCompound]⟩

/-- The books of the library. -/
def Book.all : List Book := [.standard, .sample]

end SoundLaw
