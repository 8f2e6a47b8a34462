import ClusterVolumes.TextMap

/-!
# Counts of calls

How often each call ended in each way, and the text in which a monitoring system reads the counts:
one line to each pair of an outcome and a method, in rising order, under two lines that say what is
counted.
-/

namespace ClusterVolumes

/-- The number of calls by outcome and method. -/
structure Metrics where
  counts : TextMap (TextMap Nat) := ∅

namespace Metrics

/-- How often a method ended with an outcome, none if that was never asked or seen. -/
def find? (m : Metrics) (method outcome : String) : Option Nat :=
  (m.counts.get? outcome).bind fun methods => methods.get? method

/-- Keep a number for a method and an outcome. -/
def put (m : Metrics) (method outcome : String) (n : Nat) : Metrics :=
  ⟨m.counts.insert outcome (((m.counts.get? outcome).getD ∅).insert method n)⟩

/-- Count a call. -/
def observe (m : Metrics) (method outcome : String) : Metrics :=
  m.put method outcome ((m.find? method outcome).getD 0 + 1)

/-- The count of a method and an outcome. To ask for it is enough to have it shown from then on. -/
def count (m : Metrics) (method outcome : String) : Nat × Metrics :=
  let n := (m.find? method outcome).getD 0
  (n, m.put method outcome n)

/-- The name of the counts. -/
def name : String := "pve_csi_operations_total"

/-- A character in the value of a label. -/
def labelChar (c : Char) : List Char :=
  if c = '\\' then ['\\', '\\']
  else if c = '"' then ['\\', '"']
  else if c = '\n' then ['\\', 'n']
  else [c]

/-- The value of a label. -/
def labelText (s : String) : String :=
  String.ofList (s.toList.flatMap labelChar)

/-- The line of one count. -/
def line (outcome method : String) (n : Nat) : String :=
  name ++ "\x7bcode=\"" ++ labelText outcome ++ "\",method=\"" ++ labelText method ++ "\"\x7d " ++
    toString n ++ "\n"

/-- The lines of all counts. -/
def lines (m : Metrics) : List String :=
  m.counts.entries.flatMap fun (outcome, methods) => methods.entries.map fun (method, n) =>
    line outcome method n

/-- The text of the counts, empty as long as there are none. -/
def render (m : Metrics) : String :=
  if m.lines.isEmpty then ""
  else
    "# HELP " ++ name ++ " Completed RPC calls by method and status class\n" ++
      "# TYPE " ++ name ++ " counter\n" ++ String.join m.lines

end Metrics

end ClusterVolumes
