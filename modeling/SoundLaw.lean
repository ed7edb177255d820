import SoundLaw.Main
import SoundLaw.Proofs.Match.Leftmost
import SoundLaw.Proofs.Match.LetterCase
import SoundLaw.Proofs.Notation.Brackets
import SoundLaw.Proofs.Notation.Options
import SoundLaw.Proofs.Notation.Parsing
import SoundLaw.Proofs.Notation.Writing
import SoundLaw.Proofs.Phoneme.Tiling
import SoundLaw.Proofs.RuleSet.Calls
import SoundLaw.Proofs.RuleSet.Loading
import SoundLaw.Proofs.RuleSet.Pass
import SoundLaw.Proofs.RuleSet.Records
import SoundLaw.Proofs.RuleSet.Singleton
import SoundLaw.Proofs.RuleSet.Switches
import SoundLaw.Proofs.Spelling.Refolding
import SoundLaw.Proofs.Substitution.Choice
import SoundLaw.Proofs.Substitution.Junction
import SoundLaw.Proofs.Substitution.Options
import SoundLaw.Proofs.Substitution.Reordered
import SoundLaw.Proofs.Substitution.Unchanged
import SoundLaw.Proofs.Syllable.Compound
import SoundLaw.Proofs.Syllable.Consonants
import SoundLaw.Proofs.Syllable.Stress
import SoundLaw.Proofs.Syllable.Structure
import SoundLaw.Proofs.Variant.ReadBack
import SoundLaw.Proofs.Variant.VowelClass
import SoundLaw.Proofs.Variant.WellFormed
import SoundLaw.Record.Step
