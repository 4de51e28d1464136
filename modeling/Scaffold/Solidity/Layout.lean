import Scaffold.Field.Basic
import Scaffold.Solidity.Import

/-!
This module contains the layout of a source file: what stands around a contract, how its members are
set apart, and how blocks of lines are indented.
-/

namespace Scaffold

namespace Solidity

def literal (b : Bool) : Text :=
  if b then "true" else "false"

/--
A line at a depth of `depth` spaces. An empty line stays empty.
-/
def indent (depth : Nat) (line : Text) : Text :=
  if line.isEmpty then [] else List.replicate depth ' ' ++ line

def indented (depth : Nat) (lines : List Text) : Text :=
  Text.unlines (lines.map (indent depth))

def method (heading body : List Text) : List Text :=
  heading.map (indent 2) ++ body.map (indent 4) ++ [indent 2 "\x7d"]

def fieldLine (f : Field) : Text :=
  "    " ++ f.declaration ++ ";"

def structLines (name : Text) (fields : FieldList) : List Text :=
  ["  struct ".toList ++ name ++ " \x7b".toList] ++ fields.map fieldLine ++ ["  \x7d".toList]

def structBlock (name : Text) (fields : FieldList) : Text :=
  Text.unlines (structLines name fields)

structure SourceFile where
  imports : List Import
  name : Text
  bases : List Text
  members : List Text

namespace SourceFile

def license : Text := "// SPDX-License-Identifier: UNLICENSED"

def pragma : Text := "pragma solidity ^0.8.26;"

def importLines (imports : List Import) : List Text :=
  if imports.isEmpty then [] else imports.map Import.line ++ [[]]

def preamble (imports : List Import) : List Text :=
  [license, pragma, []] ++ importLines imports

def heading (name : Text) (bases : List Text) : Text :=
  let inheritance : Text := if bases.isEmpty then [] else " is " ++ Text.join ", " bases
  "contract " ++ name ++ inheritance ++ " \x7b"

/--
The whole text of the file. An empty line stands between any two members.
-/
def text (f : SourceFile) : Text :=
  Text.unlines (preamble f.imports) ++ Text.unlines [heading f.name f.bases] ++
    Text.join ['\n'] f.members ++ Text.unlines ["\x7d"]

end SourceFile

end Solidity

end Scaffold
