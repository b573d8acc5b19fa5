import MailSync.Crypto.Pool
import MailSync.Text.Number
import MailSync.Text.Split
import MailSync.Text.Utf8

/-!
# Rehearsing the crypto pool

A pool whose engines only play: the data itself tells how long a call
takes (`delay:30;…`) and whether it fails (`fail:why`), and what a call
brings can be read off the data. The clock moves as in any rehearsal.
-/

namespace MailSync

/-! ## An engine that only plays -/

namespace PlayEngine

/-- What stands behind the first occurrence of a text. -/
def behind? (mark : List Char) : List Char → Option (List Char)
  | [] => if mark = [] then some [] else none
  | c :: rest =>
    if mark.isPrefixOf (c :: rest) then some ((c :: rest).drop mark.length) else behind? mark rest

/-- The data that rules a call. -/
def subject : CryptoCall → Bytes
  | .encrypt data _ | .decrypt data | .sign data | .verify data _ => data

def script (c : CryptoCall) : List Char := (Utf8.decodeLossy (subject c)).toList

/-- How long a call takes. -/
def duration (c : CryptoCall) : Nat :=
  let text := script c
  if "delay:".toList.isPrefixOf text then
    match splitAt ';' (text.drop 6) with
    | some (digits, _) => ((Number.natural (UInt64.size - 1) (String.ofList digits)).toOption).getD 0
    | none => 0
  else 0

/-- What a call brings unless it is told to fail. -/
def value : (c : CryptoCall) → c.Reply
  | .encrypt data recipients => .ok (data.reverse ++ utf8 (",".intercalate recipients))
  | .decrypt data =>
    if looksEncrypted data then .ok (utf8 "plain") else .error (.crypto "not an OpenPGP message")
  | .sign data => .ok data
  | .verify data signature => .ok (data = signature)

def reply (c : CryptoCall) : c.Reply :=
  match behind? "fail:".toList (script c) with
  | some why => .error (.crypto (String.ofList why))
  | none => value c

end PlayEngine

/-! ## The pool in time -/

structure CryptoRehearsal where
  pool : CryptoPool
  clock : Nat
  /-- When the calls in progress come back, each with its worker. -/
  due : List (Nat × Nat)

namespace CryptoRehearsal

def fresh : CryptoRehearsal := ⟨.fresh, 0, []⟩

def move (r : CryptoRehearsal) (m : CryptoPool.Move) : CryptoRehearsal :=
  { r with pool := r.pool.after m }

/-- Completes the call of a worker. -/
def complete (r : CryptoRehearsal) (id : Nat) : CryptoRehearsal :=
  match r.pool.workers[id]? with
  | some (.busy t) => r.move (.complete id t.call (PlayEngine.reply t.call))
  | _ => r

/-- Lets a worker begin its call; a call that takes no time is completed at once. -/
def begin (r : CryptoRehearsal) (id : Nat) : CryptoRehearsal :=
  match r.pool.workers[id]? with
  | some (.busy t) =>
    let duration := PlayEngine.duration t.call
    if duration = 0 then r.complete id else { r with due := r.due ++ [(r.clock + duration, id)] }
  | _ => r

/-- Lets idle workers take tasks, the first of them first. -/
def assign : List CryptoTask → CryptoRehearsal → CryptoRehearsal
  | [], r => r
  | _ :: rest, r =>
    match r.pool.workers.findIdx? (· = .idle) with
    | some id => assign rest (((r.move (.look id)).move (.take id)).begin id)
    | none => r

/-- Lets all workers do what they can do now. -/
def settle (r : CryptoRehearsal) : CryptoRehearsal :=
  let r := if r.pool.stopping then r else assign r.pool.queue r
  (List.range r.pool.workers.length).foldl (fun r id => r.move (.leave id)) r

/-- The call that comes back first. -/
def earliest? : List (Nat × Nat) → Option (Nat × Nat)
  | [] => none
  | d :: rest =>
    match earliest? rest with
    | none => some d
    | some d' => some (if d'.1 < d.1 then d' else d)

/-- Lets calls come back until the deadline, at most this many. -/
def proceed (deadline : Option Nat) : Nat → CryptoRehearsal → CryptoRehearsal
  | 0, r => r.settle
  | count + 1, r =>
    let r := r.settle
    match earliest? r.due with
    | none => r
    | some (due, id) =>
      if deadline.all (due ≤ ·) then
        proceed deadline count
          ({ r with clock := due, due := r.due.erase (due, id) }.complete id)
      else r

/-- The number of calls that can still come back. -/
def load (r : CryptoRehearsal) : Nat := r.pool.queue.length + r.due.length

/-- Lets time pass. -/
def wait (r : CryptoRehearsal) (duration : Nat) : CryptoRehearsal :=
  let deadline := r.clock + duration
  { r.proceed (some deadline) r.load with clock := deadline }

/-- Stops the pool, and lets time pass until all workers have gone. -/
def stop (r : CryptoRehearsal) : CryptoRehearsal :=
  let r := { r with pool := r.pool.stop }
  r.proceed none r.load

end CryptoRehearsal

end MailSync
