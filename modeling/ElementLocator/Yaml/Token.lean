import ElementLocator.Yaml.Fault

/-! # YAML tokens

    The tokens of a YAML text. Block structure, which the text shows by indentation alone, has
    tokens of its own. -/

namespace ElementLocator.Yaml

/-- What a directive line says. -/
inductive Directive
  | version (major minor : Nat)
  | tag (handle start : String)
  | other
  deriving DecidableEq, Repr

/-- The kinds of tokens. -/
inductive TokenKind
  | streamEnd
  | directive (d : Directive)
  | documentStart
  | documentEnd
  | blockSequenceStart
  | blockMappingStart
  | blockEnd
  | flowSequenceStart
  | flowSequenceEnd
  | flowMappingStart
  | flowMappingEnd
  | flowEntry
  | blockEntry
  | key
  | value
  | reference (name : String)
  | anchor (name : String)
  /-- A tag by its handle, if it has one, and the rest. -/
  | tag (handle : Option String) (suffix : String)
  /-- A scalar; `plain` if it stands without quotes and is no block scalar. -/
  | scalar (text : String) (plain : Bool)
  deriving DecidableEq, Repr

/-- How messages name a token. -/
def TokenKind.shown : TokenKind → String
  | streamEnd => "'<stream end>'"
  | directive _ => "'<directive>'"
  | documentStart => "'<document start>'"
  | documentEnd => "'<document end>'"
  | blockSequenceStart => "'<block sequence start>'"
  | blockMappingStart => "'<block mapping start>'"
  | blockEnd => "'<block end>'"
  | flowSequenceStart => "'['"
  | flowSequenceEnd => "']'"
  | flowMappingStart => "'\x7b'"
  | flowMappingEnd => "'\x7d'"
  | flowEntry => "','"
  | blockEntry => "'-'"
  | key => "'?'"
  | value => "':'"
  | reference _ => "'<alias>'"
  | anchor _ => "'<anchor>'"
  | tag .. => "'<tag>'"
  | scalar .. => "'<scalar>'"

/-- A token and its place. -/
structure Token where
  kind : TokenKind
  start : Mark
  stop : Mark
  deriving Repr

end ElementLocator.Yaml
