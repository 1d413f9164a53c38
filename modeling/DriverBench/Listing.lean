import DriverBench.Simulator.Platform
/-!
# Listings

Tables of two columns, and the lists of platforms and devices, as they are printed.
-/

namespace DriverBench

open Simulator

/-- A text filled up with spaces to a number of characters. -/
def padRight (width : Nat) (s : String) : String :=
  s ++ String.ofList (List.replicate (width - s.length) ' ')

/-- A row of dashes. -/
def dashes (n : Nat) : String :=
  String.ofList (List.replicate n '-')

/-- A line of a table whose first column has a width. -/
def tableLine (width : Nat) (row : String × String) : String :=
  padRight width row.1 ++ "  " ++ row.2 ++ "\n"

/-- The width of the first column: that of its longest entry. -/
def columnWidth (rows : List (String × String)) : Nat :=
  rows.foldl (fun width row => max width row.1.length) 0

/-- The least number of dashes under the head of the second column. -/
def leastDashes : Nat := 4

/-- A table of two columns with a head. -/
def table (head : String × String) (rows : List (String × String)) : String :=
  let width := columnWidth (head :: rows)
  let rule := (dashes width, dashes (max head.2.length leastDashes))
  String.join ((head :: rule :: rows).map (tableLine width))

/-- The mark in front of the selected entry of a list, and of any other. -/
def selectionMark (selected : Bool) : String :=
  if selected then "*" else " "

/-- A numbered entry of a list, of which one is selected. -/
def listEntry (selected index : Nat) (text : String) : String :=
  let mark := selectionMark (index == selected)
  s!" {mark}{index} {text}\n"

/-- What is printed of a platform. -/
def platformText (p : PlatformInfo) : String :=
  s!"{p.name} ({p.vendor}, {p.version})"

/-- What is printed of a device. -/
def deviceText (d : DeviceInfo) : String :=
  let megabytes := d.globalMemory / megabyte
  s!"{d.name} ({d.vendor}, {d.version}) 計算ユニット {d.computeUnits}、メモリ {megabytes} MiB"

/-- The list of platforms. -/
def platformList (ps : List PlatformInfo) (selected : Nat) : String :=
  "プラットフォーム:\n" ++
    String.join (ps.mapIdx fun index p => listEntry selected index (platformText p))

/-- The list of devices. -/
def deviceList (ds : List DeviceInfo) (selected : Nat) : String :=
  "デバイス:\n" ++
    String.join (ds.mapIdx fun index d => listEntry selected index (deviceText d))

end DriverBench
