import NetworkPortal.Proofs.Settings.Effective
import NetworkPortal.Proofs.Toml.Document

/-! # Reading printed settings back

The document of settings gives them back as long as their numbers are in the range of a document,
and those of settings that were read are. So settings may be printed, saved and resolved again.
-/
namespace NetworkPortal.Settings

variable {settings : Settings} {limit n : Nat} {storage : Storage} {vars : Variables}

/-- Numbers that a document can hold: a port of 16 bits, and a time of 64 bits with a sign. -/
structure InRange (settings : Settings) : Prop where
  port : settings.server.port < Nat.pow 2 16
  timeout : settings.api.timeout < Nat.pow 2 63

/-! ## The document of settings -/

theorem wellFormed_of_mem_sections (h : settings.InRange) :
    ∀ s ∈ settings.sections, s.WellFormed := by
  have hport : settings.server.port < Nat.pow 2 63 := h.port.trans (by decide)
  simp only [sections, List.forall_mem_cons]
  refine ⟨⟨?_, ?_, ?_⟩, ⟨?_, ?_, ?_⟩, ⟨?_, ?_, ?_⟩, by simp⟩
  · change ∀ name ∈ ["server", "host", "port", "cors_origins"], Toml.IsBare name
    decide
  · change ["host", "port", "cors_origins"].Nodup
    decide
  · simp [Toml.Setting.Fits, hport]
  · change ∀ name ∈ ["api", "base_url", "timeout_secs", "slug_views"], Toml.IsBare name
    decide
  · change ["base_url", "timeout_secs", "slug_views"].Nodup
    decide
  · simp [Toml.Setting.Fits, h.timeout]
  · change ∀ name ∈ ["plugins", "enabled", "dir"], Toml.IsBare name
    decide
  · change ["enabled", "dir"].Nodup
    decide
  · simp [Toml.Setting.Fits]

theorem natural?_ofInt (hlimit : n < limit) (hfits : n < Nat.pow 2 63) :
    natural? limit (.integer (Int64.ofInt n)) = some n := by
  have hvalue : (Int64.ofInt (n : Int)).toInt = n := by
    refine Int64.toInt_ofInt_of_le ?_ ?_
    · omega
    · have hpow : Nat.pow 2 63 = 9223372036854775808 := rfl
      omega
  simp only [natural?, hvalue]
  rw [if_pos (by simp; omega)]
  rfl

theorem texts?_map_text (items : List String) : texts? (.array (items.map .text)) = some items := by
  rw [texts?]
  induction items with
  | nil => rfl
  | cons item items ih => simp [List.mapM_cons, text?, ih]

def Server.table (server : Server) : Toml.Value :=
  .table .header
    [("host", .text server.host),
      ("port", .integer (Int64.ofInt server.port)),
      ("cors_origins", .array (server.origins.map .text))]

def Api.table (api : Api) : Toml.Value :=
  .table .header
    [("base_url", .text api.baseUrl),
      ("timeout_secs", .integer (Int64.ofInt api.timeout)),
      ("slug_views", .array (api.slugViews.map .text))]

def Plugins.table (plugins : Plugins) : Toml.Value :=
  .table .header [("enabled", .boolean plugins.enabled), ("dir", .text plugins.directory)]

theorem map_entry_sections (settings : Settings) :
    settings.sections.map Toml.Section.entry =
      [("server", settings.server.table), ("api", settings.api.table),
        ("plugins", settings.plugins.table)] := rfl

theorem Server.ofFields?_table {server : Server} (h : server.port < Nat.pow 2 16) :
    (fields? server.table).bind ofFields? = some server := by
  have hport := natural?_ofInt h (h.trans (by decide))
  simp [table, fields?, ofFields?, Keyed.get?, orDefault, text?, texts?_map_text, hport]

theorem Api.ofFields?_table {api : Api} (h : api.timeout < Nat.pow 2 63) :
    (fields? api.table).bind ofFields? = some api := by
  have htimeout := natural?_ofInt (h.trans (by decide : Nat.pow 2 63 < Nat.pow 2 64)) h
  simp [table, fields?, ofFields?, Keyed.get?, orDefault, text?, texts?_map_text, htimeout]

theorem Plugins.ofFields?_table (plugins : Plugins) (pluginDirectory : String) :
    (fields? plugins.table).bind (ofFields? pluginDirectory) = some plugins := by
  simp [table, fields?, ofFields?, Keyed.get?, orDefault, text?, boolean?]

theorem ofEntries?_sections (h : settings.InRange) (pluginDirectory : String) :
    ofEntries? pluginDirectory (settings.sections.map Toml.Section.entry) = some settings := by
  have hserver := Server.ofFields?_table h.port
  have hapi := Api.ofFields?_table h.timeout
  have hplugins := settings.plugins.ofFields?_table pluginDirectory
  rw [map_entry_sections]
  simp [ofEntries?, Keyed.get?, orDefault, hserver, hapi, hplugins]

theorem read?_write (h : settings.InRange) (pluginDirectory : String) :
    read? pluginDirectory (settings.write ++ "\n") = some settings := by
  have hnames : (settings.sections.map Toml.Section.name).Nodup := by
    change ["server", "api", "plugins"].Nodup
    decide
  rw [read?, write, Toml.read?_writeSections (wellFormed_of_mem_sections h) hnames]
  exact ofEntries?_sections h pluginDirectory

/-! ## Numbers of settings that were read -/

theorem inRange_defaults (pluginDirectory : String) : (defaults pluginDirectory).InRange :=
  ⟨show 3000 < Nat.pow 2 16 by decide, show 10 < Nat.pow 2 63 by decide⟩

theorem of_orDefault {α : Type} {P : α → Prop} {value : Option Toml.Value} {default result : α}
    {read : Toml.Value → Option α} (h : orDefault value read default = some result)
    (hdefault : P default) (hread : ∀ value, read value = some result → P result) : P result := by
  cases value with
  | none => exact Option.some.inj h ▸ hdefault
  | some value => exact hread value h

theorem natural?_eq_some_lt {value : Toml.Value} (h : natural? limit value = some n) :
    n < limit ∧ n < Nat.pow 2 63 := by
  cases value with
  | integer value =>
    have hvalue := value.toInt_lt
    have hpow : Nat.pow 2 63 = 9223372036854775808 := rfl
    simp only [natural?, Option.ite_none_right_eq_some, Option.some.injEq, Bool.and_eq_true,
      decide_eq_true_iff] at h
    omega
  | _ => cases h

theorem Server.port_lt {fields : Fields} {server : Server}
    (h : Server.ofFields? fields = some server) : server.port < Nat.pow 2 16 := by
  simp only [ofFields?, Option.bind_eq_bind, Option.bind_eq_some_iff, Option.pure_def,
    Option.some.injEq] at h
  obtain ⟨host, -, port, hport, origins, -, rfl⟩ := h
  exact of_orDefault (P := (· < Nat.pow 2 16)) hport (inRange_defaults "").port fun _ h =>
    (natural?_eq_some_lt h).1

theorem Api.timeout_lt {fields : Fields} {api : Api}
    (h : Api.ofFields? fields = some api) : api.timeout < Nat.pow 2 63 := by
  simp only [ofFields?, Option.bind_eq_bind, Option.bind_eq_some_iff, Option.pure_def,
    Option.some.injEq] at h
  obtain ⟨baseUrl, -, timeout, htimeout, slugViews, -, rfl⟩ := h
  exact of_orDefault (P := (· < Nat.pow 2 63)) htimeout (inRange_defaults "").timeout fun _ h =>
    (natural?_eq_some_lt h).2

theorem inRange_of_read? {pluginDirectory text : String}
    (h : read? pluginDirectory text = some settings) : settings.InRange := by
  have hdefault := inRange_defaults pluginDirectory
  simp only [read?, ofEntries?, Option.bind_eq_bind, Option.bind_eq_some_iff, Option.pure_def,
    Option.some.injEq] at h
  obtain ⟨entries, -, server, hserver, api, hapi, plugins, -, rfl⟩ := h
  constructor
  · refine of_orDefault (P := fun server => server.port < Nat.pow 2 16) hserver hdefault.port
      fun value hvalue => ?_
    obtain ⟨fields, -, hfields⟩ := Option.bind_eq_some_iff.mp hvalue
    exact Server.port_lt hfields
  · refine of_orDefault (P := fun api => api.timeout < Nat.pow 2 63) hapi hdefault.timeout
      fun value hvalue => ?_
    obtain ⟨fields, -, hfields⟩ := Option.bind_eq_some_iff.mp hvalue
    exact Api.timeout_lt hfields

end NetworkPortal.Settings
