/-! What can be wrong with a YAML text, by the stage of reading that finds it. -/
namespace Colloquy.Yaml

/-- The stages of reading. -/
inductive Stage where
  | characters
  | tokens
  | grammar
  | document
  | values
  deriving DecidableEq, Repr

/-- What is wrong. -/
inductive Problem where
  | unprintable
  | strayCharacter
  | missingColon
  | misplacedEntry
  | misplacedName
  | misplacedValue
  | openQuote
  | badEscape
  | separatorInQuotes
  | badAnchor
  | badTag
  | badBlockHeader
  | unexpectedToken
  | unknownHandle
  | unknownAnchor
  | repeatedAnchor
  | severalDocuments
  | badName
  | badMerge
  | unknownTag
  | badScalar
  deriving DecidableEq, Repr

/-- The stage that finds a problem. -/
def Problem.stage : Problem → Stage
  | unprintable => .characters
  | strayCharacter | missingColon | misplacedEntry | misplacedName | misplacedValue | openQuote | badEscape
  | separatorInQuotes | badAnchor | badTag | badBlockHeader => .tokens
  | unexpectedToken | unknownHandle => .grammar
  | unknownAnchor | repeatedAnchor | severalDocuments => .document
  | badName | badMerge | unknownTag | badScalar => .values

end Colloquy.Yaml
