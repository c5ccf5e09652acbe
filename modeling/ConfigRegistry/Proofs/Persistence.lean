import ConfigRegistry.Proofs.ItemCodec
import ConfigRegistry.Proofs.Shelving

set_option autoImplicit false

/-!
Items that are stored and fetched again. Main statement: every encoding of a configuration, an entry and a group is
decoded to what was encoded, and what was created or updated under a name and a version is what is fetched by them.
-/
namespace ConfigRegistry.Catalog

open Store (Call Memory)
open Work (Job)
open Solitary (Scene playJob)
open Library (play_stored play_and_then create_absent)

-- The program's encodings, but for the order of the pairs of a map.
def Configuration.Encoding (configuration : Configuration) (bytes : Bytes) : Prop :=
  ∃ tokens, configuration.Form tokens ∧ Json.render tokens = bytes

def Entry.Encoding (entry : Entry) (bytes : Bytes) : Prop := ∃ tokens, entry.Form tokens ∧ Json.render tokens = bytes

def Group.Encoding (group : Group) (bytes : Bytes) : Prop := ∃ tokens, group.Form tokens ∧ Json.render tokens = bytes

-- A job stores what is fetched later, as long as nothing else has been written under the key.
def Keeps {α : Type} (store : Job (Except ServiceFailure Unit)) (key : String)
    (fetch : Job (Except ServiceFailure α)) (value : α) (scene : Scene) : Prop :=
  ∃ after, playJob store scene = some (.ok (.ok ()), after) ∧
    ∀ later : Scene, later.memory.get? key = after.memory.get? key →
      ∃ last, playJob fetch later = some (.ok (.ok value), last) ∧ last.memory = later.memory

section Repositories

variable {α : Type} {decoder : Json.Decoder α} {kind : Kind} {name version : String} {bytes : Bytes} {value : α}
  {scene : Scene}

theorem fetch_finds (reads : decoder.whole bytes = .ok value)
    (lies : scene.memory.get? (kind.key name version) = some bytes) :
    ∃ last, playJob (kind.fetch decoder name version) scene = some (.ok (.ok value), last) ∧
      last.memory = scene.memory := by
  refine ⟨scene.called (.get (kind.key name version)), ?_, rfl⟩
  have found : (scene.memory.perform (.get (kind.key name version))).1 = some bytes := lies
  apply (play_and_then (play_stored (.get (kind.key name version)) scene)).trans
  rw [found]
  change some (Except.ok ((decoder.whole bytes).mapError ServiceFailure.ofJson), _) = _
  rw [reads]
  rfl

theorem create_keeps (reads : decoder.whole bytes = .ok value)
    (absent : scene.memory.get? (kind.key name version) = none) :
    Keeps (kind.create name version bytes) (kind.key name version) (kind.fetch decoder name version) value scene := by
  let call : Call := .create (kind.key name version) bytes
  have performs := create_absent absent bytes
  have written : (scene.memory.perform call).1 = true := congrArg Prod.fst performs
  have memory : (scene.called call).memory = scene.memory.insert (kind.key name version) bytes :=
    congrArg Prod.snd performs
  refine ⟨scene.called call, ?_, ?_⟩
  · apply (play_and_then (play_stored call scene)).trans
    rw [written]
    rfl
  · intro later same
    apply fetch_finds reads
    rw [same, memory, KeyMap.get_insert, if_pos rfl]

theorem update_keeps (reads : decoder.whole bytes = .ok value) :
    Keeps (kind.update name version bytes) (kind.key name version) (kind.fetch decoder name version) value scene := by
  refine ⟨_, play_stored (.put (kind.key name version) bytes) scene, ?_⟩
  intro later same
  apply fetch_finds reads
  have written : (scene.memory.insert (kind.key name version) bytes).get? (kind.key name version) = some bytes := by
    rw [KeyMap.get_insert, if_pos rfl]
  exact same.trans written

end Repositories

section Encodings

variable {bytes : Bytes}

theorem Configuration.encoding_read {configuration : Configuration} (encoding : configuration.Encoding bytes) :
    decoder.whole bytes = .ok configuration := by
  obtain ⟨tokens, form, rfl⟩ := encoding
  exact decode_form form

theorem Entry.encoding_read {entry : Entry} (encoding : entry.Encoding bytes) : decoder.whole bytes = .ok entry := by
  obtain ⟨tokens, form, rfl⟩ := encoding
  exact decode_form form

theorem Group.encoding_read {group : Group} (encoding : group.Encoding bytes) : decoder.whole bytes = .ok group := by
  obtain ⟨tokens, form, rfl⟩ := encoding
  exact decode_form form

end Encodings

-- `Configuration.create`, `Group.create` and `Group.update` store the program's own encoding in this way.
theorem persistence_round_trip :
    (∀ (configuration : Configuration) (bytes : Bytes), configuration.Encoding bytes →
      Configuration.decoder.whole bytes = .ok configuration) ∧
    (∀ (entry : Entry) (bytes : Bytes), entry.Encoding bytes → Entry.decoder.whole bytes = .ok entry) ∧
    (∀ (group : Group) (bytes : Bytes), group.Encoding bytes → Group.decoder.whole bytes = .ok group) ∧
    (∀ configuration : Configuration, configuration.Encoding configuration.encode) ∧
    (∀ group : Group, group.Encoding group.encode) ∧
    (∀ (configuration : Configuration) (bytes : Bytes) (scene : Scene), configuration.Encoding bytes →
      scene.memory.get? (Kind.configuration.key configuration.name configuration.version) = none →
      Keeps (Kind.configuration.create configuration.name configuration.version bytes)
        (Kind.configuration.key configuration.name configuration.version)
        (Configuration.fetch configuration.name configuration.version) configuration scene) ∧
    (∀ (group : Group) (bytes : Bytes) (scene : Scene), group.Encoding bytes →
      scene.memory.get? (Kind.group.key group.name group.version) = none →
      Keeps (Kind.group.create group.name group.version bytes) (Kind.group.key group.name group.version)
        (Group.fetch group.name group.version) group scene) ∧
    ∀ (group : Group) (bytes : Bytes) (scene : Scene), group.Encoding bytes →
      Keeps (Kind.group.update group.name group.version bytes) (Kind.group.key group.name group.version)
        (Group.fetch group.name group.version) group scene := by
  refine ⟨fun _ _ => Configuration.encoding_read, fun _ _ => Entry.encoding_read, fun _ _ => Group.encoding_read,
    fun configuration => ⟨_, configuration.tokens_form, rfl⟩, fun group => ⟨_, group.tokens_form, rfl⟩, ?_, ?_, ?_⟩
  · intro configuration bytes scene encoding absent
    exact create_keeps (Configuration.encoding_read encoding) absent
  · intro group bytes scene encoding absent
    exact create_keeps (Group.encoding_read encoding) absent
  · intro group bytes scene encoding
    exact update_keeps (Group.encoding_read encoding)

def strange : Configuration where
  id := "c"
  name := "app"
  version := "1"
  parameters := .ofList [("", "\"\\\u0000"), ("\u001f", "𝕊")]

-- Its parameters are written the last one first.
def strangeText : String :=
  "\x7b\"id\":\"c\",\"name\":\"app\",\"version\":\"1\"," ++
    "\"parameters\":\x7b\"\\u001f\":\"𝕊\",\"\":\"\\\"\\\\\\u0000\"\x7d\x7d"

theorem strange_round_trip : Configuration.decoder.whole (Text.toBytes strangeText) = .ok strange ∧
    Keeps (Kind.configuration.create "app" "1" (Text.toBytes strangeText)) "configs/app/1"
      (Configuration.fetch "app" "1") strange ⟨.empty, 0, 0⟩ := by
  have encoding : strange.Encoding (Text.toBytes strangeText) := by
    refine ⟨_, ⟨_, ⟨[("\u001f", "𝕊"), ("", "\"\\\u0000")], .swap _ _ _, rfl⟩, rfl⟩, ?_⟩
    decide +kernel
  obtain ⟨decodes, -, -, -, -, creates, -⟩ := persistence_round_trip
  constructor
  · exact decodes strange _ encoding
  · exact creates strange _ ⟨.empty, 0, 0⟩ encoding rfl

end ConfigRegistry.Catalog
