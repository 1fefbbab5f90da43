import Mathlib
import NetShell.Settings.Resolve

/-! Which setting wins.

A setting has a rank of sources: the command line, then the configuration file, then a default
(`Settings.Ranked`). Every setting that can be given on the command line follows it but one: a
level that is given there and is the default level is taken for not given, and gives way to the
file (`Settings.Yields`). `Settings.precedence` is this for everything that loads. -/
namespace NetShell
open CommandLine

namespace Settings

variable {arguments : List String} {contents : String → Except Fault Bytes} {given : Options}
  {file : FileSettings}

/-! ### Ranks -/

/-- A value that goes by rank: what the command line gives, else what the file sets, else the
default. -/
structure Ranked {α : Type} (given file : Option α) (default value : α) : Prop where
  first : ∀ v, given = some v → value = v
  second : ∀ v, given = none → file = some v → value = v
  last : given = none → file = none → value = default

/-- There is one such value. -/
theorem ranked_iff {α : Type} {given file : Option α} {default value : α} :
    Ranked given file default value ↔ value = (given <|> file).getD default := by
  constructor
  · intro h
    cases given with
    | some v => exact h.first v rfl
    | none =>
      cases file with
      | some v => exact h.second v rfl rfl
      | none => exact h.last rfl rfl
  · rintro rfl
    refine ⟨?_, ?_, ?_⟩
    · rintro v rfl
      rfl
    · rintro v rfl rfl
      rfl
    · rintro rfl rfl
      rfl

theorem ranked_getD {α : Type} (given file : Option α) (default : α) :
    Ranked given file default ((given <|> file).getD default) := ranked_iff.2 rfl

/-! ### The file -/

/-- What the file sets that a command line names, or nothing where it names none. -/
inductive FileOf (contents : String → Except Fault Bytes) (given : Options) : FileSettings → Prop
  | unnamed : given.config = none → FileOf contents given {}
  | read {path text : String} {data : Bytes} {file : FileSettings} : given.config = some path →
      '\x00' ∉ path.toList → contents path = .ok data → Text.strict? data = some text →
      FileSettings.parse? text = some file → FileOf contents given file

/-- Settings are had just if the command line and the file it names are in order. -/
theorem load_eq_ok_iff {settings : Settings} :
    load arguments contents = .ok settings ↔
      ∃ given file, CommandLine.parse arguments = .ok given ∧ FileOf contents given file ∧
        settings = resolve given file := by
  constructor
  · intro h
    unfold load at h
    split at h
    · cases h
    · rename_i given hgiven
      split at h
      · rename_i hnone
        cases h
        exact ⟨given, {}, hgiven, .unnamed hnone, rfl⟩
      · rename_i path hpath
        split at h
        · cases h
        · rename_i data hdata
          split at h
          · cases h
          · rename_i text htext
            split at h
            · cases h
            · rename_i file hfile
              cases h
              split at hdata
              · cases hdata
              · rename_i hnul
                exact ⟨given, file, hgiven,
                  .read hpath (by simpa [String.contains_char_eq] using hnul) hdata htext hfile,
                  rfl⟩
  · rintro ⟨given, file, hgiven, hfile, rfl⟩
    rw [load, hgiven]
    cases hfile with
    | unnamed hnone => simp only [hnone]
    | read hpath hnul hdata htext hparsed => simp [hpath, String.contains_char_eq, hnul, hdata,
      htext, hparsed]

/-! ### What wins -/

/-- The level of the command line gives way to the file's: it is the one that is the default. -/
def Yields (given : Options) (file : FileSettings) : Prop :=
  given.logLevel = some default.logLevel ∧ ∃ level,
    file.logLevel = some level ∧ level ≠ default.logLevel

/-- Settings that go by rank, the level's exception apart. -/
structure Settled (given : Options) (file : FileSettings) (settings : Settings) : Prop where
  console : Ranked given.console file.console default.console settings.console
  maxConnections : Ranked given.maxConnections file.maxConnections default.maxConnections
    settings.maxConnections
  prompt : Ranked given.prompt file.prompt default.prompt settings.prompt
  /-- there is no listener where none is wanted, or where the empty address is chosen -/
  websocket : ∃ address, Ranked given.websocket file.websocket (default.websocket.getD "") address ∧
    (settings.websocket = none ↔ given.noWebsocket = true ∨ address = "") ∧
    ∀ chosen, settings.websocket = some chosen → chosen = address
  /-- not to be given on the command line -/
  readBuffer : ∃ size, Ranked none file.readBuffer default.readBuffer size ∧
    settings.readBuffer = max size 1
  logLevel : Ranked given.logLevel file.logLevel default.logLevel settings.logLevel ↔
    ¬ Yields given file
  /-- and then the file's level wins -/
  yielded : Yields given file → file.logLevel = some settings.logLevel

theorem websocket_settled (given : Options) (file : FileSettings) :
    ∃ address, Ranked given.websocket file.websocket (default.websocket.getD "") address ∧
      ((resolve given file).websocket = none ↔ given.noWebsocket = true ∨ address = "") ∧
      ∀ chosen, (resolve given file).websocket = some chosen → chosen = address := by
  let address := (given.websocket <|> file.websocket).getD (default.websocket.getD "")
  have hchosen : (given.websocket <|> file.websocket <|> default.websocket) = some address := by
    cases hg : given.websocket with
    | some v => simp [address, hg]
    | none =>
      cases hf : file.websocket with
      | some v => simp [address, hg, hf]
      | none => simp [address, hg, hf, default]
  refine ⟨address, ranked_getD .., ?_, fun chosen h => ?_⟩
  · simp only [resolve, hchosen]
    cases given.noWebsocket with
    | true => simp
    | false => simp
  · simp only [resolve, hchosen] at h
    split at h
    · cases h
    · obtain ⟨heq, -⟩ := Option.filter_eq_some_iff.1 h
      exact (Option.some.inj heq).symm

/-- The default level is taken for no level. -/
theorem givenLevel_default (h : given.logLevel = some default.logLevel) :
    givenLevel given = none := by
  rw [givenLevel, h, Option.filter_some, if_neg (by decide)]

/-- Any other level is taken as it is. -/
theorem givenLevel_other (h : given.logLevel ≠ some default.logLevel) :
    givenLevel given = given.logLevel := by
  cases hg : given.logLevel with
  | none => rw [givenLevel, hg]; rfl
  | some level =>
    have hne : level ≠ default.logLevel := fun heq => h (by rw [hg, heq])
    rw [givenLevel, hg, Option.filter_some]
    exact if_pos (bne_iff_ne.2 hne)

/-- The level of the file, where the command line's yields. -/
theorem logLevel_of_yields (h : Yields given file) :
    file.logLevel = some (resolve given file).logLevel := by
  obtain ⟨hgiven, level, hfile, -⟩ := h
  rw [resolve, givenLevel_default hgiven, hfile]
  rfl

/-- The level goes by rank unless the command line's yields. -/
theorem logLevel_ranked_iff :
    Ranked given.logLevel file.logLevel default.logLevel (resolve given file).logLevel ↔
      ¬ Yields given file := by
  constructor
  · rintro h hyields
    have hwon := logLevel_of_yields hyields
    obtain ⟨hgiven, level, hfile, hne⟩ := hyields
    obtain rfl : level = (resolve given file).logLevel := Option.some.inj (hfile.symm.trans hwon)
    exact hne (h.first _ hgiven)
  · intro hkept
    rw [ranked_iff]
    by_cases hgiven : given.logLevel = some default.logLevel
    · rw [resolve, givenLevel_default hgiven, hgiven]
      cases hfile : file.logLevel with
      | none => rfl
      | some level =>
        -- the file sets the level that was given, as no other would be won over
        have hsame : level = default.logLevel :=
          Decidable.byContradiction fun hne => hkept ⟨hgiven, level, hfile, hne⟩
        rw [hsame]
        rfl
    · rw [resolve, givenLevel_other hgiven]

/-- **The command line before the file, the file before the default.** Whatever arguments are
accepted and whatever file they name, the settings are had and go by rank, except for a level that
is the default one and is given against a file that sets another. -/
theorem precedence (hgiven : CommandLine.parse arguments = .ok given)
    (hfile : FileOf contents given file) :
    ∃ settings, load arguments contents = .ok settings ∧ Settled given file settings :=
  ⟨resolve given file, load_eq_ok_iff.2 ⟨given, file, hgiven, hfile, rfl⟩, {
    console := ranked_getD ..
    maxConnections := ranked_getD ..
    prompt := ranked_getD ..
    websocket := websocket_settled given file
    readBuffer := ⟨_, ranked_getD none file.readBuffer _, by rw [resolve, Nat.max_comm]; simp⟩
    logLevel := logLevel_ranked_iff
    yielded := logLevel_of_yields }⟩

/-- A command line gives a level, the empty address and a number, and its file a level and an
address. -/
theorem precedence_given :
    let text := "logging=[\"debug\"]\nserver=[\":1\"]"
    let arguments := ["-m", "3", "--log-level=trace", "--websocket=", "-c", "gate.toml"]
    let contents := fun _ => .ok (Bytes.ofText text)
    let given : Options :=
      { config := some "gate.toml", websocket := some "", maxConnections := some 3, logLevel :=
      some "trace" }
    let file : FileSettings := { console := some ":1", logLevel := some "debug" }
    CommandLine.parse arguments = .ok given ∧ FileOf contents given file ∧
      ∃ settings, load arguments contents = .ok settings ∧ Settled given file settings := by
  intro text arguments contents given file
  have hgiven : CommandLine.parse arguments = .ok given := by cbv
  have htext : Text.strict? (Bytes.ofText text) = some text := by cbv
  have hparsed : FileSettings.parse? text = some file := by cbv
  have hfile : FileOf contents given file :=
    .read (show given.config = some "gate.toml" from rfl) (by decide) rfl htext hparsed
  exact ⟨hgiven, hfile, precedence hgiven hfile⟩

/-- The default level is given against a file that sets another, and the file wins. -/
theorem level_overruled :
    let arguments := ["--log-level", "info", "-c", "gate.toml"]
    let contents := fun _ => .ok (Bytes.ofText "[logging]\nlevel = \"debug\"\n")
    (CommandLine.parse arguments).map (·.logLevel) = .ok (some "info") ∧
      (load arguments contents).map (·.logLevel) = .ok "debug" := by
  cbv

end Settings
end NetShell
