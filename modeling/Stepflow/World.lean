/-
  Stepflow.World — what steps act on, and who answers their questions.

  Records and mail are kept here, and so is the audit journal. Calls over the web and
  generated text come from services with a state of their own. Time passes while a
  question is answered, as far as the clock of the world says; one that says nothing
  stands still.

  The journal counts the entries that are opened, so that every invocation takes an id
  of its own from the source of ids even where the book refuses to keep its entry. A
  refused call leaves the book as it is and nobody notices.
-/

import Stepflow.Audit.Book
import Stepflow.Handler.Task

namespace Stepflow

open Time

structure Journal where
  book : Audit.Book := []
  /-- Entries opened, kept or not. -/
  opened : Nat := 0
  /-- Calls of the book, answered or refused. -/
  calls : Nat := 0
  /-- Is the call of this number refused? -/
  refuses : Nat → Bool := fun _ => false
  /-- Where ids come from. -/
  ids : Nat → String := fun n => "log-" ++ toString (n + 1)

namespace Journal

def nextId (j : Journal) : String := j.ids j.opened

/-- The journal with another book, unless the call is refused. -/
def call (j : Journal) (f : Audit.Book → Audit.Book) : Journal :=
  { j with calls := j.calls + 1, book := if j.refuses j.calls then j.book else f j.book }

def openEntry (j : Journal) (e : Audit.Entry) : Journal :=
  let j := j.call fun book => ((book.create e).toOption).getD book
  { j with opened := j.opened + 1 }

def closeEntry (j : Journal) (now : Timestamp) (id : String) (c : Audit.Completion) : Journal :=
  j.call fun book => ((book.update now id c).toOption.map (·.2)).getD book

end Journal

/-- What steps act on; `σ` is what lies outside. -/
structure World (σ : Type) where
  now : Timestamp
  /-- What time it is after each question. -/
  clock : Nat → Timestamp := fun _ => now
  /-- Questions answered. -/
  answered : Nat := 0
  journal : Journal := {}
  records : Records.Store := []
  mailbox : Mailbox := []
  /-- Has a sort been given records that no order puts in a line? The program may panic
      over them, and then nothing that the run reports is seen. -/
  panicked : Bool := false
  outside : σ

def World.later {σ : Type} (w : World σ) : World σ :=
  { w with now := w.clock w.answered, answered := w.answered + 1 }

/-- Services that act on what lies outside, and of those that do not the faults and the
    ids that they give: `recordIds n` to the `n`-th record, `messageIds n` to the `n`-th
    message. -/
structure Services (σ : Type) where
  callApi : Api.Client σ
  generate : Generation.Request → σ → Except ServiceError Generation.Generated × σ
  recordFault : Option ServiceError := none
  mailFault : Option ServiceError := none
  recordIds : Nat → String := fun n => "rec-" ++ toString (n + 1)
  messageIds : Nat → String := fun n => "msg-" ++ toString (n + 1)

namespace Services

variable {σ : Type}

abbrev Nested (σ : Type) :=
  List Step → Context → World σ → (Except WorkflowError StepsRun × Context) × World σ

/-- A service that changes its part of the world, unless it has a fault. -/
def guarded {α β : Type} (fault : Option ServiceError) (result : Except ServiceError (α × β))
    (put : β → World σ) (w : World σ) : Except ServiceError α × World σ :=
  match fault, result with
  | some e, _ => (.error e, w)
  | none, .error e => (.error e, w)
  | none, .ok (a, b) => (.ok a, put b)

def reply (s : Services σ) (nested : Nested σ) (q : Ask) (w : World σ) : q.Answer × World σ :=
  match q with
  | .createRecord type fields =>
    guarded s.recordFault (w.records.create (s.recordIds w.records.length) type fields)
      (fun r => { w with records := r }) w
  | .updateRecord type id fields =>
    guarded s.recordFault ((w.records.update type id fields).map ((), ·))
      (fun r => { w with records := r }) w
  | .findRecords type query =>
    let found := w.records.query type query
    guarded s.recordFault (.ok (found.getD [], ()))
      (fun _ => { w with panicked := w.panicked || found.isNone }) w
  | .sendMail message =>
    guarded s.mailFault (w.mailbox.send (s.messageIds w.mailbox.length) message)
      (fun b => { w with mailbox := b }) w
  | .callApi request =>
    match s.callApi request w.outside with
    | (result, outside) => (result, { w with outside })
  | .generate request =>
    match s.generate request w.outside with
    | (result, outside) => (result, { w with outside })
  | .clock => (w.now, w)
  | .runSteps steps ctx => nested steps ctx w

def answer (s : Services σ) (nested : Nested σ) (q : Ask) (w : World σ) : q.Answer × World σ :=
  match s.reply nested q w with
  | (a, w) => (a, w.later)

end Services

end Stepflow
