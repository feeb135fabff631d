import Plantilla.Diagnostic
import Plantilla.Log
import Plantilla.Matching.Cursor
/-!
# Matching — items against the templates

A matcher takes the items of a scan one by one.  Illegal characters are reported and otherwise pass it by.  A token
advances the cursor or is refused.  The first refusal is reported; after it the matcher either stops matching
(`halt`) or drops the token, starts over, and owes a number of matched tokens before it reports again
(`synchronize`): a refusal while tokens are owed is silent and renews the debt.  The items are drained to the end in
both modes, so every illegal character is reported.

State, reports and log are three functions of the same step (`next`, `report`, `note`), so that each can be followed
without the others.
-/
namespace Plantilla

inductive Recovery.Mode where
  /-- Drop the token and start over, quiet until enough tokens are matched. -/
  | synchronize
  | halt
deriving DecidableEq, Repr

def Recovery.Mode.name : Recovery.Mode → String
  | .synchronize => "synchronize"
  | .halt => "halt"

def Recovery.Mode.all : List Recovery.Mode := [.synchronize, .halt]

/-- How matching goes on after a refused token. -/
structure Recovery where
  mode : Recovery.Mode := .synchronize
  /-- The matched tokens owed after a refusal before the next one is reported. -/
  quietShifts : Nat := 3
deriving DecidableEq, Repr

/-- The outcome of a run; the diagnostics went to whoever listened. -/
structure Recognition where
  /-- The template that was complete when the items ran out. -/
  matched : Option Production
  tokens : Nat
  lexicalErrors : Nat
  grammaticalErrors : Nat
deriving DecidableEq, Repr

namespace Recognition

def diagnostics (r : Recognition) : Nat := r.lexicalErrors + r.grammaticalErrors

/-- A template is complete and nothing was reported. -/
def accepted (r : Recognition) : Bool := r.matched.isSome && r.diagnostics = 0

end Recognition

/-! ## One step -/

structure Matcher where
  cursor : Cursor
  /-- Matched tokens still owed before a refusal is reported. -/
  quiet : Nat
  halted : Bool
  /-- Where the last item ended. -/
  stop : Nat
  tokens : Nat
  lexicalErrors : Nat
  grammaticalErrors : Nat
deriving DecidableEq, Repr

namespace Matcher

def start (g : Grammar) : Matcher := ⟨Cursor.start g, 0, false, 0, 0, 0, 0⟩

def afterRefusal (g : Grammar) (r : Recovery) (m : Matcher) : Matcher :=
  let m := if m.quiet = 0 then { m with grammaticalErrors := m.grammaticalErrors + 1 } else m
  match r.mode with
  | .halt => { m with halted := true }
  | .synchronize => { m with quiet := r.quietShifts, cursor := Cursor.start g }

def next (g : Grammar) (r : Recovery) (m : Matcher) : Item → Matcher
  | .illegal _ span => { m with stop := span.stop, lexicalErrors := m.lexicalErrors + 1 }
  | .token t =>
    let m := { m with stop := t.span.stop, tokens := m.tokens + 1 }
    if m.halted then m
    else
      match m.cursor.advance? t.kind with
      | some cursor => { m with cursor := cursor, quiet := m.quiet - 1 }
      | none => afterRefusal g r m

/-- The diagnostics that an item gives rise to. -/
def report (m : Matcher) : Item → List Diagnostic
  | .illegal c span => [.illegalCharacter c span]
  | .token t =>
    if m.halted then []
    else
      match m.cursor.advance? t.kind with
      | some _ => []
      | none => if m.quiet = 0 then [.unexpectedToken t m.cursor.expected] else []

/-- The log events that an item gives rise to, those of the scan apart. -/
def note (m : Matcher) : Item → List Log.Event
  | .illegal _ _ => []
  | .token t =>
    if m.halted then []
    else
      match m.cursor.advance? t.kind with
      | some cursor =>
        .matched t cursor.position :: (if cursor.position = 1 then [.commits t.kind cursor.names] else [])
      | none =>
        if m.quiet = 0 then [.refused t m.cursor.position m.cursor.names] else [.discarded t]

/-! ## The end of the items -/

def finish (m : Matcher) : Recognition :=
  if m.halted then ⟨none, m.tokens, m.lexicalErrors, m.grammaticalErrors⟩
  else
    match m.cursor.completed? with
    | some p => ⟨some p, m.tokens, m.lexicalErrors, m.grammaticalErrors⟩
    | none =>
      ⟨none, m.tokens, m.lexicalErrors,
        if m.quiet = 0 then m.grammaticalErrors + 1 else m.grammaticalErrors⟩

/-- The diagnostics of the end: one, if no template is complete and no matched token is owed. -/
def finalReport (m : Matcher) : List Diagnostic :=
  if m.halted then []
  else
    match m.cursor.completed? with
    | some _ => []
    | none => if m.quiet = 0 then [.unexpectedEnd m.stop m.cursor.expected] else []

def finalNote (m : Matcher) : List Log.Event :=
  if m.halted then []
  else
    match m.cursor.completed? with
    | some p => [.completed p.name]
    | none => if m.quiet = 0 then [.ended m.cursor.position] else [.endedQuiet]

/-! ## Whole runs -/

def run (g : Grammar) (r : Recovery) (m : Matcher) (items : List Item) : Matcher := items.foldl (next g r) m

/-- Every diagnostic of the items, the end included. -/
def reports (g : Grammar) (r : Recovery) : Matcher → List Item → List Diagnostic
  | m, [] => m.finalReport
  | m, item :: items => m.report item ++ reports g r (m.next g r item) items

/-- Every log event of the items, `scanned` giving those of the scan. -/
def notes (g : Grammar) (r : Recovery) (scanned : Item → List Log.Event) : Matcher → List Item → List Log.Event
  | m, [] => m.finalNote
  | m, item :: items => scanned item ++ m.note item ++ notes g r scanned (m.next g r item) items

end Matcher

/-- The outcome of matching items against a grammar. -/
def recognize (g : Grammar) (r : Recovery) (items : List Item) : Recognition :=
  ((Matcher.start g).run g r items).finish

/-- The diagnostics of matching items against a grammar, in the order in which they are found. -/
def diagnose (g : Grammar) (r : Recovery) (items : List Item) : List Diagnostic :=
  (Matcher.start g).reports g r items

/-- Match items and tell a sink what was found. -/
def recognizeInto {σ : Type} [Sink σ] (g : Grammar) (r : Recovery) (items : List Item) (sink : σ) :
    Recognition × σ :=
  (recognize g r items, Sink.reportAll sink (diagnose g r items))

end Plantilla
