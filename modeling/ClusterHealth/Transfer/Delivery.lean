import ClusterHealth.Text.Utf8

/-!
What a transfer delivers. A delivery that is interrupted leaves part of its content in the file: the
first piece is written at once; while a write is under way the next pieces gather in a buffer, three
at a time, and those that have gathered when the interruption comes are lost.
-/
namespace ClusterHealth.Transfer
open Text (Bytes)

structure Delivery where
  content : Bytes
  /-- Why the delivery broke off behind its content. -/
  interruption : Option String := none
  /-- The largest piece that arrives at once. -/
  piece : Option Nat := none
  deriving DecidableEq

namespace Delivery

def bufferSize : Nat := 8192

/-- Size of the next piece, of `remaining` bytes into a buffer that holds `gathered`. -/
def next (d : Delivery) (remaining gathered : Nat) : Nat :=
  min remaining (min (d.piece.getD bufferSize) (bufferSize - gathered))

/-- How much a buffer gathers until it is written: `none` if the content ends before. -/
def gather (d : Delivery) : Nat → Nat → Nat → Option Nat
  | 0, _, gathered => some gathered
  | pieces + 1, remaining, gathered =>
    if gathered = bufferSize then some gathered
    else
      let size := d.next remaining gathered
      if size = 0 then none else d.gather pieces (remaining - size) (gathered + size)

/-- How much of `remaining` bytes is written, in rounds of three pieces. -/
def writtenIn (d : Delivery) : Nat → Nat → Nat
  | 0, _ => 0
  | rounds + 1, remaining =>
    match d.gather 3 remaining 0 with
    | some size => size + d.writtenIn rounds (remaining - size)
    | none => 0

/-- What reaches the file. -/
def landed (d : Delivery) : Bytes :=
  match d.interruption with
  | none => d.content
  | some _ =>
    let size := d.content.length
    let first := d.next size 0
    d.content.take (first + d.writtenIn size (size - first))

end Delivery
end ClusterHealth.Transfer
