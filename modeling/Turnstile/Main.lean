/-
# The programs

One executable holds three programs: without arguments it starts the server up, with
`inspect` it runs the inspector on the arguments that follow, with `bench` the benchmark.

This file is the only one that touches the machine: it reads the environment and the files
that the programs ask for, draws random numbers, reads clocks and prints.
-/
import Turnstile.Console.Benchmark
import Turnstile.Console.Inspector
import Turnstile.Console.Startup

namespace Turnstile.Host

/-- Why the machine cannot read a file. -/
def faultOf : IO.Error → FileFault
  | .noFileOrDirectory _ _ _ => .notFound
  | .inappropriateType _ code what =>
    if code = 20 then .notDirectory else if code = 21 then .isDirectory else .other what
  | e => .other (toString e)

/-- The bytes of a file. -/
def readBytes (path : String) : IO (Except FileFault ByteArray) := do
  try return .ok (← IO.FS.readBinFile path)
  catch e => return .error (faultOf e)

/-- The variable that an entry of the environment sets. -/
def variableOf (entry : List UInt8) : Option (String × ByteArray) :=
  let name := entry.takeWhile (· != '='.toUInt8)
  (String.fromUTF8? ⟨name.toArray⟩).map fun s => (s, ⟨(entry.drop (name.length + 1)).toArray⟩)

/-- The environment of this process: entries that end with a zero byte. -/
def environment : IO (Register String ByteArray) := do
  match ← readBytes "/proc/self/environ" with
  | .ok bytes =>
    let entries := (bytes.toList.splitOnP (· == 0)).filter (· ≠ [])
    return .ofList (entries.filterMap variableOf)
  | .error _ => return {}

/-- The surroundings with the file of environment variables and the policy file read. -/
def surroundings (usesEnvFile : Bool) : IO Surroundings := do
  let envFile ← readBytes EnvFile.path
  let base : Surroundings :=
    { environment := ← environment
      read := fun p => if p = EnvFile.path then envFile else .error .notFound }
  let s := if usesEnvFile then base.withEnvFile?.getD base else base
  match s.valueOf? LimiterConfig.policiesVariable with
  | none => return base
  | some path =>
    let file ← readBytes path
    return { base with read := fun p => if p = path then file else base.read p }

/-- The time of day in milliseconds: the time at which the machine was started, and the time
since. -/
def now : IO Nat := do
  let since ← IO.monoMsNow
  match ← readBytes "/proc/stat" with
  | .error _ => return since
  | .ok bytes =>
    let lines := ((String.fromUTF8? bytes).getD "").splitOn "\n"
    let start := lines.findSome? fun l => match l.splitOn " " with
      | ["btime", t] => t.toNat?
      | _ => none
    return start.getD 0 * 1000 + since

/-- Random bytes as one number. -/
def random (bytes : Nat) : IO Nat := do
  return (← IO.getRandomBytes (USize.ofNat bytes)).toList.foldl (fun n b => n * 256 + b.toNat) 0

/-- A number that depends on a seed and a place in no simple way. -/
def scattered (seed place : Nat) : Nat := (mixHash (hash seed) (hash place)).toNat

/-- The keys of new rows. -/
def keys (seed place : Nat) : Uuid :=
  .ofRandom (scattered seed place <<< 64 + scattered place seed)

/-- What the benchmark needs of the machine. -/
def machinery (seed : Nat) : Benchmark.Machinery IO where
  timed f := do
    let before ← IO.monoNanosNow
    let a ← IO.lazyPure f
    let after ← IO.monoNanosNow
    return (a, ⟨after - before⟩)
  now := now
  choice := scattered seed

/-- Prints output. -/
def print (output : List Output) : IO Unit := output.forM fun o => o.lines.forM IO.println

/-- Prints the error that a program ended with, and yields the exit code. -/
def conclude (e : Ending) : IO UInt32 := do
  e.failure.forM fun f => IO.eprintln ("Error: " ++ f)
  return UInt32.ofNat e.exitCode

/-- Starts the server up. -/
def startUp : IO UInt32 := do
  let r := Startup.run (← surroundings true)
  print r.output
  conclude r.toEnding

/-- Runs the inspector. -/
def inspect (args : List String) : IO UInt32 := do
  let seed ← random 8
  let r := Inspector.run (← surroundings false) ⟨UInt64.ofNat (← now)⟩ (keys seed) args
  print r.output
  conclude r.toEnding

/-- Runs the benchmark. -/
def bench (args : List String) : IO UInt32 := do
  let (fs, e) ← Benchmark.run (machinery (← random 8)) (← surroundings false) args
  print (fs.flatMap (Benchmark.Finding.written .full))
  conclude e

end Turnstile.Host

open Turnstile.Host in
/-- Runs the program that the first argument names. -/
def main (args : List String) : IO UInt32 :=
  match args with
  | [] => startUp
  | "inspect" :: rest => inspect rest
  | "bench" :: rest => bench rest
  | _ => return 1
