import ElementLocator.Regex

/-! # Tags of YAML scalars

    The tag that tells what a scalar stands for. A plain scalar without a tag gets the one
    whose form its text has, and is a string if it has none of the forms. -/

namespace ElementLocator.Yaml.Tag

/-- What the tags of the standard types start with. -/
def standard : String := "tag:yaml.org,2002:"

def null : String := standard ++ "null"
def bool : String := standard ++ "bool"
def int : String := standard ++ "int"
def float : String := standard ++ "float"
def binary : String := standard ++ "binary"
def timestamp : String := standard ++ "timestamp"
def str : String := standard ++ "str"
def seq : String := standard ++ "seq"
def map : String := standard ++ "map"
def set : String := standard ++ "set"
def omap : String := standard ++ "omap"
def pairs : String := standard ++ "pairs"
def merge : String := standard ++ "merge"
def value : String := standard ++ "value"

/-- The tag of a lone character that begins tags, anchors or aliases. No value goes with it. -/
def indicator : String := standard ++ "yaml"

/-- A form of plain scalars: the tag it gives, the characters it may start with, and its
    regular expression. -/
structure Form where
  tag : String
  firsts : List Char
  source : String

/-- The forms of plain scalars in the order they are tried. -/
def forms : List Form := [
  ⟨bool, "yYnNtTfFoO".toList,
    "^(?:yes|Yes|YES|no|No|NO|true|True|TRUE|false|False|FALSE|on|On|ON|off|Off|OFF)$"⟩,
  ⟨float, "-+0123456789.".toList,
    "^(?:[-+]?(?:[0-9][0-9_]*)\\.[0-9_]*(?:[eE][-+][0-9]+)?|\\.[0-9][0-9_]*(?:[eE][-+][0-9]+)?|[-+]?[0-9][0-9_]*(?::[0-5]?[0-9])+\\.[0-9_]*|[-+]?\\.(?:inf|Inf|INF)|\\.(?:nan|NaN|NAN))$"⟩,
  ⟨int, "-+0123456789".toList,
    "^(?:[-+]?0b[0-1_]+|[-+]?0[0-7_]+|[-+]?(?:0|[1-9][0-9_]*)|[-+]?0x[0-9a-fA-F_]+|[-+]?[1-9][0-9_]*(?::[0-5]?[0-9])+)$"⟩,
  ⟨merge, ['<'], "^(?:<<)$"⟩,
  ⟨null, ['~', 'n', 'N'], "^(?:~|null|Null|NULL|)$"⟩,
  ⟨timestamp, "0123456789".toList,
    "^(?:[0-9][0-9][0-9][0-9]-[0-9][0-9]-[0-9][0-9]|[0-9][0-9][0-9][0-9]-[0-9][0-9]?-[0-9][0-9]?(?:[Tt]|[ \\t]+)[0-9][0-9]?:[0-9][0-9]:[0-9][0-9](?:\\.[0-9]*)?(?:[ \\t]*(?:Z|[-+][0-9][0-9]?(?::[0-9][0-9])?))?)$"⟩,
  ⟨value, ['='], "^(?:=)$"⟩,
  ⟨indicator, "!&*".toList, "^(?:!|&|\\*)$"⟩]

/-- The forms with their programs. -/
def compiledForms : List (Form × Option Regex.Program) :=
  forms.map fun f => (f, (Regex.compile f.source).toOption)

/-- The tag of a plain scalar without a tag. -/
def ofPlain (cs : List Char) : String :=
  match cs with
  | [] => null
  | c :: _ =>
    match compiledForms.find? fun f => f.1.firsts.contains c && f.2.any (·.isIn cs.toArray) with
    | some f => f.1.tag
    | none => str

end ElementLocator.Yaml.Tag
