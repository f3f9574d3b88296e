import ContextHub.Config.Load
import ContextHub.Proofs.Config.Outline
/-!
# A rendered configuration loads back

What a valid configuration is rendered as is an outline of words, whatever its numbers and in
whatever case its level is written. So the file is the table of its settings (`table?_render`). Laid
over the defaults they leave none of these (`ofSetting_settings`), and what is loaded is the
configuration itself, which is valid as before (`rendered_loads_back`).
-/

namespace ContextHub

open Yaml

/-! ## Levels -/

namespace Level

theorem mem_of_threshold? {w : String} (h : (threshold? w).isSome = true) :
    w ∈ ["off", "error", "warn", "info", "debug", "trace"] := by
  unfold threshold? at h
  split at h
  all_goals simp_all

end Level

namespace TelemetrySettings

variable {s : TelemetrySettings} (hs : s.threshold?.isSome = true)
include hs

theorem isAlpha_of_mem_logLevel {c : Char} (hc : c ∈ s.logLevel.toList) : c.isAlpha = true := by
  have hwords : (["off", "error", "warn", "info", "debug", "trace"].all
      (·.toList.all Char.isAlpha)) = true := rfl
  have hword := List.all_eq_true.1 hwords _ (Level.mem_of_threshold? hs)
  refine isAlpha_of_toLower (List.all_eq_true.1 hword _ ?_)
  rw [String.toList_ofList]
  exact List.mem_map_of_mem hc

/-- A level is none of the words that stand for something else than text. -/
theorem logLevel_not_mem :
    s.logLevel ∉ ["~", "null", "Null", "NULL", "true", "True", "TRUE", "false", "False",
      "FALSE"] := by
  have hwords : ∀ w ∈ ["~", "null", "Null", "NULL", "true", "True", "TRUE", "false", "False",
      "FALSE"], (Level.threshold? (String.ofList (w.toList.map Char.toLower))).isSome = false := by
    decide
  intro hm
  have h := hwords _ hm
  rw [threshold?, h] at hs
  cases hs

theorem logLevel_ne_nil : s.logLevel.toList ≠ [] := by
  intro h
  rw [threshold?, h] at hs
  exact absurd hs (by decide)

theorem bare_logLevel : Bare s.logLevel.toList :=
  ⟨logLevel_ne_nil hs, fun c hc => by
    simp [isLetter, Char.isAlphanum, isAlpha_of_mem_logLevel hs hc]⟩

theorem resolve_logLevel : resolve s.logLevel = .text s.logLevel := by
  obtain ⟨c, cs, hcs⟩ := List.exists_cons_of_ne_nil (logLevel_ne_nil hs)
  have hc := isAlpha_of_mem_logLevel hs (c := c) (by simp [hcs])
  have hword := logLevel_not_mem hs
  have hnull : isNull s.logLevel = false := by
    simp_all [isNull]
  have hflag : flag? s.logLevel = none := by
    simp_all [flag?]
  exact resolve_text hcs hc hnull hflag

end TelemetrySettings

/-! ## Settings -/

namespace Setting

theorem toNat_unsigned {w : Width} {n : Nat} (h : n ≤ w.max) : (unsigned n).toNat w = .ok n := by
  simp [toNat, fitting, h]

theorem lt_wordCount {w : Width} {n : Nat} (h : n ≤ w.max) : n < Decimal.wordCount := by
  cases w <;> simp only [Width.max, Decimal.wordCount] at h ⊢ <;> omega

/-- Nothing laid over a table leaves it as it is. -/
theorem overlay_nil (entries : List (String × Setting)) :
    (table entries).overlay (table []) = table entries := by
  simp [overlay, overlayAll]

end Setting

/-! ### Sections

Each section as settings in the order of their keys, from which it is read again whatever it
started with.
-/

def eventLoopSetting (n : Nat) : Setting := .table [("queue_capacity", .unsigned n)]

theorem read_eventLoopSetting (d : Dialect) (start : Nat) {n : Nat} (h : n ≤ Width.size.max) :
    eventLoopShape.read d start (eventLoopSetting n) = .ok n := by
  simp [eventLoopSetting, Shape.read, Shape.ofTable, eventLoopShape, Setting.toNat_unsigned h,
    DecodeError.within]

namespace TimerLimits

structure Fits (l : TimerLimits) : Prop where
  requests : l.requests ≤ Width.size.max
  nanoapp : l.nanoapp ≤ Width.size.max
  reserved : l.reserved ≤ Width.size.max
  floor : l.floor ≤ Width.size.max

def setting (l : TimerLimits) : Setting := .table
  [("max_nanoapp_timers", .unsigned l.nanoapp), ("max_timer_requests", .unsigned l.requests),
    ("nanoapp_timer_floor", .unsigned l.floor), ("reserved_nanoapp_timers", .unsigned l.reserved)]

theorem read_setting (d : Dialect) (start : TimerLimits) {l : TimerLimits} (hf : l.Fits) :
    shape.read d start l.setting = .ok l := by
  simp [setting, Shape.read, Shape.ofTable, shape,
    Setting.toNat_unsigned, hf.requests, hf.nanoapp, hf.reserved, hf.floor, DecodeError.within,
    bind, Except.bind, pure, Except.pure]

end TimerLimits

namespace HeapLimits

structure Fits (l : HeapLimits) : Prop where
  totalBytes : l.totalBytes ≤ Width.size.max
  blockBytes : l.blockBytes ≤ Width.size.max
  blockCount : l.blockCount ≤ Width.size.max

def setting (l : HeapLimits) : Setting := .table
  [("enforce_total_ceiling", .flag l.enforceTotal),
    ("max_allocation_bytes", .unsigned l.blockBytes),
    ("max_allocation_count", .unsigned l.blockCount), ("max_total_bytes", .unsigned l.totalBytes)]

theorem read_setting (d : Dialect) (start : HeapLimits) {l : HeapLimits} (hf : l.Fits) :
    shape.read d start l.setting = .ok l := by
  simp [setting, Shape.read, Shape.ofTable, shape,
    Setting.toNat_unsigned, Setting.toFlag, hf.totalBytes, hf.blockBytes, hf.blockCount,
    DecodeError.within, bind, Except.bind, pure, Except.pure]

end HeapLimits

namespace WifiSettings

structure Fits (s : WifiSettings) : Prop where
  retryBackoffMs : s.retryBackoffMs ≤ Width.word.max
  maxRetries : s.maxRetries ≤ Width.byte.max
  scanTimeoutMs : s.scanTimeoutMs ≤ Width.word.max
  rangingTimeoutMs : s.rangingTimeoutMs ≤ Width.word.max

def setting (s : WifiSettings) : Setting := .table
  [("ranging_timeout_ms", .unsigned s.rangingTimeoutMs),
    ("scan_max_retries", .unsigned s.maxRetries),
    ("scan_retry_backoff_ms", .unsigned s.retryBackoffMs),
    ("scan_timeout_ms", .unsigned s.scanTimeoutMs)]

theorem read_setting (d : Dialect) (start : WifiSettings) {s : WifiSettings} (hf : s.Fits) :
    shape.read d start s.setting = .ok s := by
  simp [setting, Shape.read, Shape.ofTable, shape,
    Setting.toNat_unsigned, hf.retryBackoffMs, hf.maxRetries, hf.scanTimeoutMs,
    hf.rangingTimeoutMs, DecodeError.within, bind, Except.bind, pure, Except.pure]

end WifiSettings

namespace WwanSettings

def setting (s : WwanSettings) : Setting := .table
  [("cell_info_timeout_ms", .unsigned s.cellInfoTimeoutMs)]

theorem read_setting (d : Dialect) (start : WwanSettings) {s : WwanSettings}
    (h : s.cellInfoTimeoutMs ≤ Width.word.max) : shape.read d start s.setting = .ok s := by
  simp [setting, Shape.read, Shape.ofTable, shape,
    Setting.toNat_unsigned h, DecodeError.within, bind, Except.bind, pure, Except.pure]

end WwanSettings

namespace GnssSettings

def setting (s : GnssSettings) : Setting := .table
  [("session_timeout_ms", .unsigned s.sessionTimeoutMs)]

theorem read_setting (d : Dialect) (start : GnssSettings) {s : GnssSettings}
    (h : s.sessionTimeoutMs ≤ Width.word.max) : shape.read d start s.setting = .ok s := by
  simp [setting, Shape.read, Shape.ofTable, shape,
    Setting.toNat_unsigned h, DecodeError.within, bind, Except.bind, pure, Except.pure]

end GnssSettings

namespace TelemetrySettings

def setting (s : TelemetrySettings) : Setting := .table
  [("log_level", .text s.logLevel), ("metrics_enabled", .flag s.metricsEnabled)]

theorem read_setting (d : Dialect) (start s : TelemetrySettings) :
    shape.read d start s.setting = .ok s := by
  simp [setting, Shape.read, Shape.ofTable, shape, Setting.toText,
    Setting.toFlag, DecodeError.within, bind, Except.bind, pure, Except.pure]

end TelemetrySettings

/-! ### The whole -/

namespace Config

/-- Every number of the configuration is of the width that its field has. -/
structure Fits (c : Config) : Prop where
  queueCapacity : c.queueCapacity ≤ Width.size.max
  timers : c.timers.Fits
  memory : c.memory.Fits
  wifi : c.wifi.Fits
  cellInfoTimeoutMs : c.wwan.cellInfoTimeoutMs ≤ Width.word.max
  sessionTimeoutMs : c.gnss.sessionTimeoutMs ≤ Width.word.max

/-- The settings that a configuration is made of, by section. -/
def settings (c : Config) : List (String × Setting) :=
  [("event_loop", eventLoopSetting c.queueCapacity), ("gnss", c.gnss.setting),
    ("memory", c.memory.setting), ("telemetry", c.telemetry.setting), ("timers", c.timers.setting),
    ("wifi", c.wifi.setting), ("wwan", c.wwan.setting)]

variable {c : Config}

/-- The names that a configuration is rendered with. -/
def names : List (String × List String) :=
  [("event_loop", ["queue_capacity"]),
    ("timers", ["max_timer_requests", "max_nanoapp_timers", "reserved_nanoapp_timers",
      "nanoapp_timer_floor"]),
    ("memory", ["max_total_bytes", "max_allocation_bytes", "max_allocation_count",
      "enforce_total_ceiling"]),
    ("wifi", ["scan_retry_backoff_ms", "scan_max_retries", "scan_timeout_ms",
      "ranging_timeout_ms"]),
    ("wwan", ["cell_info_timeout_ms"]),
    ("gnss", ["session_timeout_ms"]),
    ("telemetry", ["log_level", "metrics_enabled"])]

theorem names_sections (c : Config) :
    c.sections.map (fun s => (s.name, s.fields.map (·.1))) = names := rfl

/-- Each of the names may be a key, and no section is without fields. -/
theorem names_isPlain :
    ∀ e ∈ names, IsName e.1 ∧ e.2 ≠ [] ∧ ∀ n ∈ e.2, IsName n := by
  simp only [isName_iff, bare_iff]
  decide

theorem bare_value (hs : c.telemetry.threshold?.isSome = true) :
    ∀ s ∈ c.sections, ∀ f ∈ s.fields, Bare f.2.toList := by
  have hn : ∀ n : Nat, Bare (toString n).toList := bare_repr
  have hf : ∀ b : Bool, Bare (toString b).toList := bare_flag
  simp only [sections, List.forall_mem_cons, List.not_mem_nil, false_implies, implies_true, hn, hf,
    TelemetrySettings.bare_logLevel hs, and_self]

theorem isPlain_of_mem (hs : c.telemetry.threshold?.isSome = true) :
    ∀ s ∈ c.sections, s.IsPlain := by
  intro s hmem
  have hnames : (s.name, s.fields.map (·.1)) ∈ names := by
    rw [← names_sections c]
    exact List.mem_map_of_mem hmem
  obtain ⟨hname, hne, hfields⟩ := names_isPlain _ hnames
  exact ⟨hname, by simpa using hne, fun f hf =>
    ⟨hfields f.1 (List.mem_map_of_mem hf), bare_value hs s hmem f hf⟩⟩

/-- What the rendered texts stand for are the settings, in the order of their keys. -/
theorem foldl_entries (hf : c.Fits) (hs : c.telemetry.threshold?.isSome = true) :
    (Outline.entries c.sections).foldl (fun t e => Setting.put e.1 e.2 t) [] = c.settings := by
  have hn : ∀ {w : Width} {n : Nat}, n ≤ w.max → resolve (toString n) = .unsigned n :=
    fun h => resolve_repr (Setting.lt_wordCount h)
  simp only [Outline.entries, sections, List.map_cons, List.map_nil, hn hf.queueCapacity,
    hn hf.timers.requests, hn hf.timers.nanoapp, hn hf.timers.reserved, hn hf.timers.floor,
    hn hf.memory.totalBytes, hn hf.memory.blockBytes, hn hf.memory.blockCount,
    hn hf.wifi.retryBackoffMs, hn hf.wifi.maxRetries, hn hf.wifi.scanTimeoutMs,
    hn hf.wifi.rangingTimeoutMs, hn hf.cellInfoTimeoutMs, hn hf.sessionTimeoutMs, resolve_flag,
    TelemetrySettings.resolve_logLevel hs]
  simp only [Setting.ofEntries, List.foldl_cons, List.foldl_nil, Setting.put, String.reduceEq,
    String.reduceLT, if_true, if_false]
  rfl

theorem ofSetting_settings (d : Dialect) (hf : c.Fits) :
    ofSetting d (.table c.settings) = .ok c := by
  have hloop := fun start => read_eventLoopSetting d start hf.queueCapacity
  have htimers := fun start => TimerLimits.read_setting d start hf.timers
  have hmemory := fun start => HeapLimits.read_setting d start hf.memory
  have hwifi := fun start => WifiSettings.read_setting d start hf.wifi
  have hwwan := fun start => WwanSettings.read_setting d start hf.cellInfoTimeoutMs
  have hgnss := fun start => GnssSettings.read_setting d start hf.sessionTimeoutMs
  have hread : ofSetting d (.table c.settings) = (shape d).ofTable {} c.settings := rfl
  rw [hread]
  simp [Shape.ofTable, shape, settings, hloop, htimers, hmemory, hwifi, hwwan, hgnss,
    TelemetrySettings.read_setting, DecodeError.within, bind, Except.bind, pure, Except.pure]

/-! ## Loading -/

theorem faults_eq_nil (hv : c.isValid = true) : c.faults = [] := List.isEmpty_iff.1 hv

theorem isSome_threshold? (hv : c.isValid = true) : c.telemetry.threshold?.isSome = true := by
  have hnil := faults_eq_nil hv
  simp only [faults, List.append_eq_nil_iff, TelemetrySettings.faults] at hnil
  by_contra hs
  simp [hs, ConfigFault.orWhole] at hnil

theorem validated_eq (hv : c.isValid = true) : c.validated = .ok c := by
  rw [validated, faults_eq_nil hv]

/-- The file that a valid configuration is written to is the table of its settings. -/
theorem table?_render (hf : c.Fits) (hv : c.isValid = true) : table? c.render = .ok c.settings := by
  have hs := isSome_threshold? hv
  rw [← foldl_entries hf hs]
  exact Outline.table?_text (List.cons_ne_nil _ _) (isPlain_of_mem hs)

theorem settings_of_path?_eq_none {vars : List (String × String)}
    (hvars : ∀ v ∈ vars, Variables.path? v.1 = none) :
    Variables.settings vars = .ok (.table []) := by
  rw [Variables.settings]
  induction vars with
  | nil => rfl
  | cons v vars ih =>
    rw [List.foldlM_cons, hvars v List.mem_cons_self]
    exact ih fun w hw => hvars w (.tail v hw)

/-- A valid configuration, written to a file as it is rendered, is loaded from there as it was,
whatever its numbers and the letters of its level, as long as no variable is about settings. -/
theorem rendered_loads_back (hf : c.Fits) (hv : c.isValid = true) {files : Files} {path : String}
    (hfile : files path = some (.file c.render)) {vars : List (String × String)}
    (hvars : ∀ v ∈ vars, Variables.path? v.1 = none) : loadFrom files vars path = .ok c := by
  have hlayer : layer (some (.file c.render)) = .ok (.table c.settings) := by
    rw [layer, table?_render hf hv]
    rfl
  have hfinish : finish (.table c.settings) (.table []) = .ok c := by
    rw [finish, Setting.overlay_nil, ofSetting_settings .layered hf]
    simp only [validated_eq hv]
  rw [loadFrom, hfile, settings_of_path?_eq_none hvars]
  simp only [hlayer, hfinish]

/-- A valid configuration with the largest numbers that there are. -/
def utmost : Config where
  queueCapacity := 65536
  timers := { requests := 4096, nanoapp := 4096, reserved := 4095, floor := 4096 }
  memory :=
    { totalBytes := Width.size.max, blockBytes := Width.size.max, blockCount := Width.size.max,
      enforceTotal := false }
  wifi :=
    { retryBackoffMs := 60000, maxRetries := 16, scanTimeoutMs := Width.word.max,
      rangingTimeoutMs := Width.word.max }
  wwan := { cellInfoTimeoutMs := Width.word.max }
  gnss := { sessionTimeoutMs := Width.word.max }
  telemetry := { logLevel := "oFF", metricsEnabled := false }

theorem utmost_loads_back :
    loadFrom (fun path => if path = "hub.yaml" then some (.file utmost.render) else none)
      [("PATH", "/bin"), ("NANOHUB", "on")] "hub.yaml" = .ok utmost :=
  rendered_loads_back
    ⟨by decide, by constructor <;> decide, by constructor <;> decide, by constructor <;> decide,
      by decide, by decide⟩
    (by decide) (if_pos rfl) (by decide)

end Config

end ContextHub
