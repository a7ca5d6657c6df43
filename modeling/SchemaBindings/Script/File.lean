import SchemaBindings.Script.Import

/-! TypeScript files: header lines, groups of imports, then the body. -/

namespace SchemaBindings

def schemaBanner : String :=
  "/* eslint-disable @typescript-eslint/no-unused-vars */"

namespace Script

structure File where
  header : List String
  importGroups : List (List Import)
  body : List (List Fragment)
  deriving Repr

namespace File

def empty : File := ⟨[], [], []⟩

def addHeader (f : File) (line : String) : File :=
  { f with header := f.header ++ [line] }

def addImport (f : File) (i : Import) : File :=
  { f with importGroups := addToLast i f.importGroups }

def addImports (f : File) (imports : List Import) : File :=
  imports.foldl addImport f

/-- Begins a group unless the last one is still empty or there is none. -/
def beginGroup (f : File) : File :=
  match lastGroup? f.importGroups with
  | some (_ :: _) => { f with importGroups := f.importGroups ++ [[]] }
  | _ => f

def add (f : File) (element : List Fragment) : File :=
  { f with body := f.body ++ [element] }

def addAll (f : File) (elements : List (List Fragment)) : File :=
  { f with body := f.body ++ elements }

def emitSeparated (b : Builder) : List (List Fragment) → Builder
  | [] => b
  | [part] => b.emit part
  | part :: parts => emitSeparated (b.emit part).pushBlank parts

def groupFragments (group : List Import) : List Fragment :=
  group.flatMap Import.fragments

def renderWith (f : File) (unit : IndentUnit) : String :=
  let groups := nonemptyGroups f.importGroups
  let b := f.header.foldl Builder.pushLine (.new unit)
  let b := emitSeparated b (groups.map groupFragments)
  let b := if !groups.isEmpty && !f.body.isEmpty then b.pushBlank else b
  (emitSeparated b f.body).text

def render (f : File) : String :=
  f.renderWith .typescript

def isEmpty (f : File) : Bool :=
  f.header.isEmpty && (nonemptyGroups f.importGroups).isEmpty && f.body.isEmpty

end File

end Script

end SchemaBindings
