/-!
# Durations

Times are whole milliseconds. The text of a duration is its seconds with as many places as needed,
or its milliseconds when it is shorter than a second.
-/
namespace ClusterDeploy.Duration

def second : Nat := 1000

def fraction (ms : Nat) : String :=
  if ms = 0 then ""
  else if ms % 100 = 0 then s!".{ms / 100}"
  else if ms % 10 = 0 then s!".{ms / 100}{ms / 10 % 10}"
  else s!".{ms / 100}{ms / 10 % 10}{ms % 10}"

def text (ms : Nat) : String :=
  if second ≤ ms then s!"{ms / second}{fraction (ms % second)}s"
  else if ms = 0 then "0ns"
  else s!"{ms}ms"

end ClusterDeploy.Duration
