import UnityBuild.Log.Basic
import UnityBuild.Pattern.Basic

/-!
# Log filters

A filter is a list of rules, separated by commas. A rule names a part of the program, a level, or
both with `=` between them; a part without a level lets every line pass, and a level without a part
holds for all parts. Among the rules whose name the part begins with, the longest one decides, and
of two equally long ones the later. Where no rule applies nothing passes. A filter without rules
lets errors pass.

Behind a slash a filter may have a pattern, and then only lines in which it occurs pass. Rules and
patterns that cannot be read are left out with a warning.
-/

namespace UnityBuild

/-- A bound for levels: nothing passes, or all that is at least as important as a level. -/
inductive Threshold where
  | off
  | upTo (level : Level)
  deriving DecidableEq, Repr

def Threshold.admits : Threshold → Level → Bool
  | off, _ => false
  | upTo bound, level => level.rank ≤ bound.rank

/-- A rule holds for the parts whose names begin with its own. -/
structure Rule where
  name : String
  threshold : Threshold
  deriving DecidableEq, Repr

structure Filter where
  rules : List Rule
  /-- The pattern that has to occur in every line. -/
  wanted : Option Pattern

namespace Filter

def standard : Filter := ⟨[⟨"", .upTo .info⟩], none⟩

/-- The filter without rules. -/
def errorsOnly : List Rule := [⟨"", .upTo .error⟩]

/-- The threshold of a word, in upper or lower case. -/
def threshold? (word : List Char) : Option Threshold :=
  let word := word.map Char.toUpper
  if word = "OFF".toList then some .off
  else (Level.all.find? (·.name.toList = word)).map .upTo

/-- The longer name decides, and the later rule of two names of the same length. -/
def better (best rule : Rule) : Rule :=
  if best.name.utf8ByteSize ≤ rule.name.utf8ByteSize then rule else best

def rule? (filter : Filter) (part : Part) : Option Rule :=
  match filter.rules.filter (fun rule => rule.name.toList.isPrefixOf part.name.toList) with
  | [] => none
  | rule :: rules => some (rules.foldl better rule)

def admits (filter : Filter) (line : LogLine) : Bool :=
  (match filter.rule? line.part with
    | some rule => rule.threshold.admits line.level
    | none => false)
  && filter.wanted.all (·.occursIn line.text)

def warning (text : List Char) : String :=
  "warning: invalid logging spec '" ++ String.ofList text ++ "', ignoring it\n"

/-- Reads a rule without the spaces around it, or gives a warning. -/
def rule (text : List Char) : Except String Rule :=
  match text.splitOn '=' with
  | [word] =>
    match threshold? word with
    | some threshold => .ok ⟨"", threshold⟩
    | none => .ok ⟨String.ofList word, .upTo .trace⟩
  | [name, word] =>
    let word := Text.trim word
    if word.isEmpty then .ok ⟨String.ofList name, .upTo .trace⟩
    else
      match threshold? word with
      | some threshold => .ok ⟨String.ofList name, threshold⟩
      | none => .error (warning word)
  | _ => .error (warning text)

/-- Reads the pattern of a filter, or gives a warning. -/
def pattern (text : List Char) : Except String Pattern :=
  match Pattern.parse (String.ofList text) with
  | .ok pattern => .ok pattern
  | .error complaint => .error ("warning: invalid regex filter - " ++ complaint ++ "\n")

/-- What could be read, and the warnings about what could not. -/
def separate {α : Type} (results : List (Except String α)) : List α × List String :=
  (results.filterMap (·.toOption),
    results.filterMap fun result =>
      match result with
      | .ok _ => none
      | .error warning => some warning)

/-- Reads a filter, with the warnings about what was left out of it. -/
def parse (text : String) : Filter × List String :=
  match text.toList.splitOn '/' with
  | _ :: _ :: _ :: _ =>
    (⟨errorsOnly, none⟩, ["warning: invalid logging spec '" ++ text ++
      "', ignoring it (too many '/'s)\n"])
  | rules :: patterns =>
    let (rules, warnings) := separate
      ((((rules.splitOn ',').map Text.trim).filter (!·.isEmpty)).map rule)
    let (patterns, complaints) := separate (patterns.map pattern)
    (⟨if rules.isEmpty then errorsOnly else rules, patterns.head?⟩, warnings ++ complaints)
  | [] => (⟨errorsOnly, none⟩, [])

/-- The filter of a variable, which may not be set. -/
def ofVariable : Option String → Filter × List String
  | none => (standard, [])
  | some text => parse text

end Filter

end UnityBuild
