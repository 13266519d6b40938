import LinkAudit.Demangler.Output
import LinkAudit.Mangled
import LinkAudit.Text.Digit
import LinkAudit.Text.Utf8

/-!
Demangling in batches. The distinct canonical forms of the names are handed to an external tool, a
bounded number at a time. A batch that fails leaves a warning and no texts, and does no harm to
other batches.
-/

namespace LinkAudit.Demangler

inductive ToolOutcome where
  | launchFailed (reason : Text)
  | exited (status : Int) (output errors : List UInt8) (elapsed : Text)

/-- A way to run programs: the outcome for a program with its arguments. -/
abbrev Tool := List Text → ToolOutcome

structure Yield where
  texts : Texts
  warnings : List Text

def Yield.none : Yield := ⟨∅, []⟩

def toolText (bytes : List UInt8) : Text := Text.unifyLineEnds (Text.Utf8.decodeLossy bytes)

def ToolOutcome.yield (number : Nat) : ToolOutcome → Yield
  | .launchFailed reason =>
    ⟨∅, ["Demangler launch failed for batch ".toList ++ Text.ofNat (number + 1) ++ ": ".toList ++
      reason]⟩
  | .exited status output errors elapsed =>
    if status = 0 then ⟨readOutput (toolText output), []⟩
    else
      let complaint := (toolText errors).trim Text.isBlank
      ⟨∅, ["Demangler batch ".toList ++ Text.ofNat (number + 1) ++ " exited with status ".toList ++
        Text.ofInt status ++
        if complaint.isEmpty then " in ".toList ++ elapsed else ": ".toList ++ complaint]⟩

/-- Runs the command on one batch, whose names follow the command's own words. An empty batch is not
run. -/
def runBatch (tool : Tool) (command : List Text) (number : Nat) (batch : List Text) : Yield :=
  if batch.isEmpty then .none else (tool (command ++ batch)).yield number

/-- Pieces of the given size in order, the last of which may be shorter. -/
def chunks {α : Type} (size : Nat) (l : List α) : List (List α) :=
  if _h : l.isEmpty || size == 0 then [] else l.take size :: chunks size (l.drop size)
termination_by l.length
decreasing_by
  cases l with
  | nil => simp at _h
  | cons a rest =>
    have : size ≠ 0 := by simpa using _h
    simp only [List.length_drop, List.length_cons]
    omega

def batchSize : Nat := 200

/-- The batches for the names: their canonical forms, distinct and in increasing order. -/
def batches (size : Nat) (names : List Text) : List (List Text) :=
  chunks size (Text.distinct (names.filterMap Mangled.canonical?))

def calls (command : List Text) (size : Nat) (names : List Text) : List (List Text) :=
  (batches size names).map (command ++ ·)

def isStartable (words : List Text) : Bool := words.all Text.isPassable

def warnings (tool : Tool) (calls : List (List Text)) : List Text :=
  (calls.mapIdx fun number words => (tool words).yield number).flatMap (·.warnings)

/-- The text for a name: that of its canonical form in the first batch that has one. -/
def textFor? (yields : List Yield) (name : Text) : Option Text := do
  let canonical ← Mangled.canonical? name
  yields.findSome? (·.texts[canonical]?)

def textsFor (yields : List Yield) (names : List Text) : Texts :=
  names.foldl (fun texts name =>
    match textFor? yields name with
    | some text => texts.insert name text
    | none => texts) ∅

def demangle (tool : Tool) (command : List Text) (size : Nat) (names : List Text) : Yield :=
  let yields := (batches size names).mapIdx (runBatch tool command)
  ⟨textsFor yields names, yields.flatMap (·.warnings)⟩

def defaultCommand : List Text := ["xcrun".toList, "swift-demangle".toList]

end LinkAudit.Demangler
