import TextCursor.Command
import TextCursor.Config.Stored
import TextCursor.Flags.Stored
import TextCursor.Proofs.Motion
import TextCursor.Proofs.Sound
import TextCursor.Proofs.Unquoted
import TextCursor.Proofs.LineByLine
import TextCursor.Proofs.Literal
import TextCursor.Proofs.Reread
import TextCursor.Proofs.Blame
import TextCursor.Proofs.Quoting
import TextCursor.Proofs.Shift
import TextCursor.Proofs.WordByWord
import TextCursor.Proofs.Skipping
import TextCursor.Proofs.OpenWindow
import TextCursor.Proofs.NumberByNumber
import TextCursor.Proofs.IntegerGrammar
import TextCursor.Proofs.SignedInteger
import TextCursor.Proofs.QuoteRuns
import TextCursor.Proofs.KeywordLookup
import TextCursor.Proofs.LetterCase
import TextCursor.Proofs.Abbreviation
import TextCursor.Proofs.TokenEnd
import TextCursor.Proofs.FloatGrammar
import TextCursor.Proofs.Coverage
import TextCursor.Proofs.FractionDigits
import TextCursor.Proofs.Placing
import TextCursor.Proofs.OptionsAsked
import TextCursor.Proofs.LineSearch
import TextCursor.Proofs.FixedCharacters
import TextCursor.Proofs.Stepping
import TextCursor.Proofs.StoredConfig
import TextCursor.Proofs.StoredFlags
