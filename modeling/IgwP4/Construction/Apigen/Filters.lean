/-
This file gives the names that the API generator derives from the names of the tables.
-/

import IgwP4.Construction.Text.Substitution
import Mathlib.Data.List.Infix

namespace IgwP4.Apigen
open Text

/-- The generator works on texts symbol by symbol. -/
abbrev Name := List Char

def switchIngress : Name := ['S', 'w', 'i', 't', 'c', 'h', 'I', 'n', 'g', 'r', 'e', 's', 's']

def switchEgress : Name := ['S', 'w', 'i', 't', 'c', 'h', 'E', 'g', 'r', 'e', 's', 's']

def parser : Name := ['P', 'a', 'r', 's', 'e', 'r']

def pipePrefix : Name := ['p', 'i', 'p', 'e', '.']

/-- `\$(\d+)` is replaced by `_\1_`. -/
def dollarNumber : Matcher Char
  | [] => none
  | symbol :: rest =>
      let digits := rest.takeWhile Char.isDigit
      if symbol = '$' ∧ digits ≠ [] then some (digits.length, '_' :: digits ++ ['_']) else none

/-- `normalize_field_name` -/
def normalizeFieldName (name : Name) : Name :=
  let name := substitute dollarNumber name
  let name := substitute (literal ['$'] ['_']) name
  let name := removePrefix pipePrefix name
  let name := substitute (literal switchIngress ['i']) name
  let name := substitute (literal switchEgress ['e']) name
  let name := substitute (literal parser ['p']) name
  substitute (oneOf ['.', '[', ']', ':'] '_') name

/-- `last_part` -/
def lastPart (name : Name) : Name := (name.splitOn '.').getLastD []

/-- The prefix of all names -/
def apiPrefix : Name := ['b', 'f', '_', 'a', 'p', 'i']

def snapshot : Name := ['_', 's', 'n', 'a', 'p', 's', 'h', 'o', 't', '_']

/-- `lower` changes a text symbol by symbol. -/
def filename (lower : Char → Char) (name : Name) : Name :=
  apiPrefix ++ '_' :: (normalizeFieldName name).map lower

def sourcePath (filename : Name) : Name := filename ++ ['.', 'c']

def headerPath (filename : Name) : Name :=
  ['i', 'n', 'c', 'l', 'u', 'd', 'e', '/'] ++ filename ++ ['.', 'h']

/-- The loop of `run` writes the files of a table unless it is a snapshot. -/
def tableFiles (lower : Char → Char) (name : Name) : List Name :=
  if snapshot <:+: filename lower name then []
  else [sourcePath (filename lower name), headerPath (filename lower name)]

/-- `run` writes the files of all tables and then the common header. -/
def run (lower : Char → Char) (tables : List Name) : List Name :=
  tables.flatMap (tableFiles lower) ++ [headerPath apiPrefix]

end IgwP4.Apigen
