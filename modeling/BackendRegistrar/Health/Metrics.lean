import BackendRegistrar.Decimal.Layout
import BackendRegistrar.Decimal.Nearby
import BackendRegistrar.Environment

/-! Measurements: counts, sums and gauges under labels, and the text that reports them. -/

namespace BackendRegistrar.Health

/-- Names with values; values are written as they are. -/
abbrev Labels := List (String × String)

abbrev Family (α : Type) := List (Labels × α)

namespace Family

def get? (family : Family α) (labels : Labels) : Option α :=
  (family.find? fun m => m.1 = labels).map Prod.snd

/-- Changes the value under labels, which starts from a given one. -/
def update (labels : Labels) (start : α) (change : α → α) : Family α → Family α
  | [] => [(labels, change start)]
  | m :: rest =>
    if m.1 = labels then (m.1, change m.2) :: rest else m :: update labels start change rest

@[simp] theorem get?_nil (labels : Labels) : get? ([] : Family α) labels = none := rfl

theorem get?_cons (m : Labels × α) (rest : Family α) (labels : Labels) :
    get? (m :: rest) labels = if m.1 = labels then some m.2 else get? rest labels := by
  by_cases h : m.1 = labels <;> simp [get?, h]

theorem get?_update (family : Family α) (labels other : Labels) (start : α) (change : α → α) :
    get? (update labels start change family) other =
      if labels = other then some (change ((get? family labels).getD start))
      else get? family other := by
  induction family with
  | nil => simp [update, get?_cons]
  | cons m rest ih =>
    by_cases hm : m.1 = labels
    · subst hm; by_cases h : m.1 = other <;> simp [update, get?_cons, h]
    · by_cases h : labels = other
      · subst h; simp [update, get?_cons, hm, ih]
      · simp [update, get?_cons, hm, ih, h]

end Family

/-- How observed values are spread: their sum and number, and how many fall to each bound. -/
structure Histogram where
  sum : Float
  count : UInt64
  buckets : List UInt64

namespace Histogram

/-- The upper bounds of the buckets: fifteen, from a hundredth on, each twice the one before. -/
def bounds : List Float := (List.range 15).map fun n => 0.01 * Float.ofNat (1 <<< n)

def empty : Histogram := ⟨0, 0, List.replicate 16 0⟩

def increment (index : Nat) (counts : List UInt64) : List UInt64 :=
  counts.modify index (· + 1)

/-- Adds a value to the first bucket whose bound is not below it. -/
def observe (h : Histogram) (value : Float) : Histogram :=
  let index := (bounds.findIdx? fun bound => value ≤ bound).getD bounds.length
  ⟨h.sum + value, h.count + 1, increment index h.buckets⟩

/-- How many values are at most each bound, and how many there are. -/
def cumulative (h : Histogram) : List UInt64 :=
  (h.buckets.foldl (fun (sums, total) n => (sums ++ [total + n], total + n)) ([], 0)).1

end Histogram

structure Metrics where
  reconciliations : Family UInt64
  errors : Family UInt64
  durations : Family Histogram
  syncs : Family UInt64
  registered : Family Int
  resets : Family UInt64

namespace Metrics

def empty : Metrics := ⟨[], [], [], [], [], []⟩

instance : Inhabited Metrics := ⟨empty⟩

def named (name : String) : Labels := [("name", name)]

def count (labels : Labels) (family : Family UInt64) : Family UInt64 :=
  family.update labels 0 (· + 1)

def record (m : Metrics) : Observation → Metrics
  | .reconciled name seconds =>
    { m with
      reconciliations := count (named name) m.reconciliations
      durations := m.durations.update (named name) Histogram.empty fun h => h.observe seconds }
  | .failed name => { m with errors := count (named name) m.errors }
  | .synced provider success =>
    let result := if success then "success" else "failure"
    { m with syncs := count [("provider", provider), ("result", result)] m.syncs }
  | .registered name backendSet n =>
    { m with
      registered := m.registered.update [("name", name), ("backend_set", backendSet)] 0 fun _ => n }
  | .reset trigger n =>
    { m with resets := m.resets.update [("trigger", trigger)] 0 (· + UInt64.ofNat n) }

/-- Real numbers are positional with a point after at most twenty-one digits and fewer than six
zeros before the first digit. -/
def realLayout : Decimal.Layout := ⟨21, 6⟩

def realText (value : Float) : String := realLayout.text Decimal.nearby value.toBits

def sample (name : String) (labels : Labels) (value : String) : String :=
  let marks := labels.map fun (label, text) => label ++ "=\"" ++ text ++ "\""
  name ++ "\x7b" ++ ",".intercalate marks ++ "\x7d " ++ value ++ "\n"

/-- The lines of a family, after what it is; none if it has no samples. -/
def family (name type help : String) (values : Family α) (samples : Labels → α → String) : String :=
  if values.isEmpty then ""
  else
    "# HELP " ++ name ++ " " ++ help ++ ".\n# TYPE " ++ name ++ " " ++ type ++ "\n" ++
      String.join (values.map fun (labels, value) => samples labels value)

def counter (name help : String) (values : Family UInt64) : String :=
  family name "counter" help values fun labels n => sample (name ++ "_total") labels (toString n)

/-- Sum, number and buckets; the bound of a bucket stands before the other labels. -/
def histogram (name help : String) (values : Family Histogram) : String :=
  family name "histogram" help values fun labels h =>
    let bounds := Histogram.bounds.map realText ++ ["+Inf"]
    sample (name ++ "_sum") labels (realText h.sum) ++
      sample (name ++ "_count") labels (toString h.count) ++
      String.join ((bounds.zip h.cumulative).map fun (bound, n) =>
        sample (name ++ "_bucket") (("le", bound) :: labels) (toString n))

def text (m : Metrics) : String :=
  counter "lbregistrar_reconciliations" "Total number of reconciliations" m.reconciliations ++
    counter "lbregistrar_reconciliation_errors" "Total number of reconciliation errors" m.errors ++
    histogram "lbregistrar_reconcile_duration_seconds" "Duration of reconciliation in seconds"
      m.durations ++
    counter "lbregistrar_backend_syncs" "Backend set updates by provider and result" m.syncs ++
    family "lbregistrar_backends_registered" "gauge"
      "Backends pushed in the last successful update of each backend set" m.registered
      (fun labels n => sample "lbregistrar_backends_registered" labels (toString n)) ++
    counter "lbregistrar_phase_resets" "Registrars reset to PENDING by cluster changes" m.resets ++
    "# EOF\n"

end Metrics

def linesOf (text : String) : List String :=
  let parts := text.splitOn "\n"
  let lines := if parts.getLast? = some "" then parts.dropLast else parts
  lines.map fun line => if line.endsWith "\r" then (line.dropEnd 1).toString else line

def sortedLines (text : String) : List String :=
  (linesOf text).mergeSort fun a b => decide (a ≤ b)

end BackendRegistrar.Health
