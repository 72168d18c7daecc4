import DeployOptions.Manager
import DeployOptions.Text.Percent

/-! Default values: random credentials, the connection URL of the internal database, and what
containers get where the document says nothing. -/
namespace DeployOptions

/-- A source of random picks: the index that each pick yields, and how many have been made. -/
structure Picks where
  index : Nat → Nat
  used : Nat := 0

namespace Picks

def alphabet : List Char :=
  "abcdefghijklmnopqrstuvwxyzABCDEFGHIJKLMNOPQRSTUVWXYZ0123456789".toList

def charAt (p : Picks) (k : Nat) : Char := alphabet.getD (p.index k % alphabet.length) 'a'

def take (length : Nat) (p : Picks) : String × Picks :=
  (String.ofList ((List.range length).map fun i => p.charAt (p.used + i)),
    { p with used := p.used + length })

/-- A random text of a positive length, which has to be a whole number. -/
def text (length : Value) (p : Picks) : Except Failure (String × Picks) :=
  match Value.order? length (.int 0) with
  | some .lt | some .eq => .error (.lengthNotPositive length)
  | _ =>
    match length.integer? with
    | some n => .ok (p.take n.toNat)
    | none => .error .unsuitableValue

end Picks

namespace Credential

def passwordLength : Nat := 16
def keyBaseLength : Nat := 64
def tokenLength : Nat := 16

/-- The connection URL of the internal database. The password is percent-encoded, so any
characters may occur in it. -/
def databaseUrl (password : String) : String :=
  String.ofList ("postgresql://zync:".toList ++ Text.Percent.encode password.toList ++
    "@zync-database:5432/zync_production".toList)

end Credential

namespace Resources

private def of (limitCpu limitMemory requestCpu requestMemory : String) : Resources where
  limits := .map [(.str "cpu", .str limitCpu), (.str "memory", .str limitMemory)]
  requests := .map [(.str "cpu", .str requestCpu), (.str "memory", .str requestMemory)]

def zyncDefault : Resources := of "1" "512Mi" "150m" "250M"
def zyncQueDefault : Resources := of "1" "512Mi" "250m" "250M"
def zyncDatabaseDefault : Resources := of "250m" "2G" "50m" "250M"
def apicastStagingDefault : Resources := of "100m" "128Mi" "50m" "64Mi"
def apicastProductionDefault : Resources := of "1" "128Mi" "500m" "64Mi"

end Resources

def defaultPullSecrets : List Value := [.str "threescale-registry-auth"]

end DeployOptions
