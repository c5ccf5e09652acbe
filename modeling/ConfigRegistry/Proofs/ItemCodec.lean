import Mathlib.Data.List.Forall2
import Mathlib.Data.List.Pairwise
import ConfigRegistry.Catalog.Codec
import ConfigRegistry.Proofs.Reading

set_option autoImplicit false

/-!
The JSON of items is read back. Main statements: a configuration, an entry and a group are read as they were written,
whatever texts, parameters, labels and entries they have and in whatever order the pairs of their maps were written.
-/
namespace ConfigRegistry.Json

-- The decoder takes these tokens and no more, whatever follows them.
def Reads {α : Type} (decoder : Decoder α) (tokens : List Token) (value : α) : Prop :=
  ∀ rest, decoder (tokens ++ rest) = .ok (value, rest)

section Values

variable {α β : Type} {decoder : Decoder α} {tokens : List Token} {value : α}

theorem reads_text (text : String) : Reads Json.text [.ofText text] text := fun rest => read_text text rest

theorem reads_map (f : α → β) (reads : Reads decoder tokens value) : Reads (decoder.map f) tokens (f value) :=
  fun rest => read_map f (reads rest)

theorem reads_under (segment : Segment) (reads : Reads decoder tokens value) (rest : List Token) :
    decoder.under segment (tokens ++ rest) = .ok (value, rest) := by
  rw [Decoder.under, reads rest]
  rfl

theorem separated_cons (first : List Token) (others : List (List Token)) :
    separated (first :: others) = first ++ others.flatMap fun tokens => .comma :: tokens := by
  induction others generalizing first with
  | nil => simp [separated]
  | cons next others ih =>
      rw [separated, ih next]
      · simp
      · exact fun same => nomatch same

theorem length_commas (others : List (List Token)) (rest : List Token) :
    others.length ≤ ((others.flatMap fun tokens => .comma :: tokens) ++ rest).length := by
  induction others with
  | nil => exact Nat.zero_le _
  | cons next others ih =>
      simp only [List.flatMap_cons, List.length_cons, List.length_append] at ih ⊢
      omega

end Values

section Lists

variable {α : Type} {item : Decoder α} {items : List α} {written : List (List Token)}

theorem more_items_read (reads : List.Forall₂ (Reads item) written items) {fuel : Nat} (enough : items.length ≤ fuel)
    (position : Nat) (rest : List Token) :
    moreItems item fuel position ((written.flatMap fun tokens => .comma :: tokens) ++ .closeArray :: rest) =
      .ok (items, rest) := by
  induction reads generalizing fuel position with
  | nil => cases fuel <;> rfl
  | cons one _ ih =>
      obtain ⟨fuel, rfl⟩ : ∃ less, fuel = less + 1 := ⟨fuel - 1, by simp only [List.length_cons] at enough; omega⟩
      have first := reads_under (.index position) one
      have later := ih (Nat.le_of_succ_le_succ enough) (position + 1)
      simp only [List.flatMap_cons, List.cons_append, List.append_assoc]
      simp only [moreItems, first, later, bind, Except.bind]
      rfl

theorem reads_list (reads : List.Forall₂ (Reads item) written items)
    (opens : ∀ tokens ∈ written, ∀ rest, tokens ≠ .closeArray :: rest) (nonempty : ∀ tokens ∈ written, tokens ≠ []) :
    Reads (Json.list item) (array written) items := by
  intro rest
  cases reads with
  | nil => rfl
  | @cons tokens _ written items one others =>
      have first := reads_under (.index 0) one
      rw [array, separated_cons, List.cons_append, List.cons_append, List.append_assoc, List.append_assoc,
        List.singleton_append]
      rw [Json.list]
      · have enough := length_commas written (.closeArray :: rest)
        rw [others.length_eq] at enough
        have later := more_items_read others enough 1 rest
        simp only [first, later, bind, Except.bind]
        rfl
      · intro more same
        cases begins : tokens with
        | nil => exact nonempty tokens List.mem_cons_self begins
        | cons token behind =>
            rw [begins, List.cons_append, List.cons.injEq] at same
            exact opens tokens List.mem_cons_self behind (begins.trans (by rw [same.1]))

end Lists

section Maps

variable {β : Type}

theorem insert_into_last (key : String) (value : β) {entries : List (String × β)}
    (below : ∀ entry ∈ entries, entry.1 < key) : KeyMap.insertInto key value entries = entries ++ [(key, value)] := by
  induction entries with
  | nil => rfl
  | cons head entries ih =>
      have smaller := below head List.mem_cons_self
      have after : ¬ key < head.1 := fun before => String.lt_irrefl _ (String.lt_trans before smaller)
      have different : head.1 ≠ key := fun same => String.lt_irrefl _ (same ▸ smaller)
      rw [KeyMap.insertInto, if_neg after, if_neg different, ih fun entry among =>
        below entry (List.mem_cons_of_mem _ among)]
      rfl

theorem entries_insert_all (map : KeyMap β) (pairs : List (String × β))
    (ascending : (map.entries ++ pairs).Pairwise fun a b => a.1 < b.1) :
    (pairs.foldl (fun map pair => map.insert pair.1 pair.2) map).entries = map.entries ++ pairs := by
  induction pairs generalizing map with
  | nil => simp
  | cons pair pairs ih =>
      have below : ∀ entry ∈ map.entries, entry.1 < pair.1 :=
        fun entry among => (List.pairwise_append.mp ascending).2.2 entry among pair List.mem_cons_self
      have grown : (map.insert pair.1 pair.2).entries = map.entries ++ [pair] := insert_into_last pair.1 pair.2 below
      rw [List.foldl_cons, ih (map.insert pair.1 pair.2) (by simpa [grown] using ascending), grown]
      simp

theorem entries_injective {left right : KeyMap β} (same : left.entries = right.entries) : left = right := by
  cases left
  cases right
  cases same
  rfl

theorem insert_all (map : KeyMap β) : KeyMap.ofList map.entries = map :=
  entries_injective (entries_insert_all .empty map.entries (by simpa [KeyMap.empty] using map.ascending))

theorem insert_comm (map : KeyMap β) {left right : String × β} (different : left.1 ≠ right.1) :
    (map.insert left.1 left.2).insert right.1 right.2 = (map.insert right.1 right.2).insert left.1 left.2 := by
  apply KeyMap.eq_of_get
  intro key
  rw [KeyMap.get_insert, KeyMap.get_insert, KeyMap.get_insert, KeyMap.get_insert]
  by_cases first : left.1 = key
  · rw [if_pos first, if_pos first, if_neg fun second => different (first.trans second.symm)]
  · rw [if_neg first, if_neg first]

-- The pairs of a map make the map in any order.
theorem insert_all_perm (map : KeyMap β) {pairs : List (String × β)} (same : pairs.Perm map.entries) :
    KeyMap.ofList pairs = map := by
  have apart : map.entries.Pairwise fun left right => left.1 ≠ right.1 := by
    apply map.ascending.imp
    intro left right before equal
    rw [equal] at before
    exact String.lt_irrefl _ before
  have symmetric : Std.Symm fun left right : String × β => left.1 ≠ right.1 := ⟨fun _ _ differ => Ne.symm differ⟩
  have commutes : ∀ left ∈ map.entries, ∀ right ∈ map.entries, ∀ map : KeyMap β,
      (map.insert left.1 left.2).insert right.1 right.2 = (map.insert right.1 right.2).insert left.1 left.2 := by
    intro left first right second map
    by_cases equal : left = right
    · rw [equal]
    · exact insert_comm map (apart.forall first second equal)
  calc
    KeyMap.ofList pairs = KeyMap.ofList map.entries := (same.symm.foldl_eq' commutes KeyMap.empty).symm
    _ = map := insert_all map

variable {value : Decoder β} {write : β → List Token}

def memberTokens (write : β → List Token) (pair : String × β) : List Token := .ofText pair.1 :: .colon :: write pair.2

theorem read_member {found : β} (reads : Reads value (write found) found) (map : KeyMap β) (key : String)
    (rest : List Token) :
    Json.member value map (memberTokens write (key, found) ++ rest) = .ok (map.insert key found, rest) := by
  have under := reads_under (.key key) reads rest
  simp only [memberTokens, List.cons_append, Token.ofText, Json.member, read_escaped, under, bind, Except.bind]
  rfl

theorem more_members_read (map : KeyMap β) (pairs : List (String × β))
    (reads : ∀ pair ∈ pairs, Reads value (write pair.2) pair.2) {fuel : Nat} (enough : pairs.length ≤ fuel)
    (rest : List Token) :
    Json.moreMembers value fuel map
        (((pairs.map (memberTokens write)).flatMap fun tokens => .comma :: tokens) ++ .closeObject :: rest) =
      .ok (pairs.foldl (fun map pair => map.insert pair.1 pair.2) map, rest) := by
  induction pairs generalizing fuel map with
  | nil => cases fuel <;> rfl
  | cons pair pairs ih =>
      obtain ⟨fuel, rfl⟩ : ∃ less, fuel = less + 1 := ⟨fuel - 1, by simp only [List.length_cons] at enough; omega⟩
      have later := ih (map.insert pair.1 pair.2) (fun other among => reads other (List.mem_cons_of_mem _ among))
        (Nat.le_of_succ_le_succ enough)
      simp only [List.map_cons, List.flatMap_cons, List.cons_append, List.append_assoc]
      simp only [Json.moreMembers, read_member (reads pair List.mem_cons_self), later, bind, Except.bind,
        List.foldl_cons]

theorem reads_key_map (write : β → List Token) (pairs : List (String × β))
    (reads : ∀ pair ∈ pairs, Reads value (write pair.2) pair.2) :
    Reads (Json.keyMap value) (object (pairs.map fun pair => (pair.1, write pair.2))) (.ofList pairs) := by
  intro rest
  rw [object, List.map_map]
  cases pairs with
  | nil => rfl
  | cons pair pairs =>
      have enough := length_commas (pairs.map (memberTokens write)) (.closeObject :: rest)
      rw [List.length_map] at enough
      have later := more_members_read (KeyMap.empty.insert pair.1 pair.2) pairs
        (fun other among => reads other (List.mem_cons_of_mem _ among)) enough rest
      have first := read_member (reads pair List.mem_cons_self) .empty pair.1
      rw [List.map_cons, separated_cons, List.cons_append, List.cons_append, List.append_assoc, List.append_assoc,
        List.singleton_append]
      change Json.keyMap value (.openObject :: (memberTokens write pair ++ _)) = _
      rw [Json.keyMap]
      · simp only [first, bind, Except.bind]
        exact later
      · exact fun more same => nomatch same

end Maps

section Objects

variable {δ : Type} {layout : Layout δ}

-- The members fill a draft one after the other.
inductive Fills (layout : Layout δ) : δ → List (String × List Token) → δ → Prop where
  | nil {draft : δ} : Fills layout draft [] draft
  | field {draft next final : δ} {name : String} {tokens : List Token} {others : List (String × List Token)}
      {field : Field δ} (found : layout.fields.find? (fun field => field.name == name) = some field)
      (empty : field.filled draft = false) (reads : Reads (field.read draft) tokens next)
      (later : Fills layout next others final) : Fills layout draft ((name, tokens) :: others) final

theorem more_members_fill {draft final : δ} {members : List (String × List Token)}
    (fills : Fills layout draft members final)
    {fuel : Nat} (enough : members.length ≤ fuel) (rest : List Token) :
    layout.moreMembers fuel draft
        (((members.map fun member => .ofText member.1 :: .colon :: member.2).flatMap fun tokens => .comma :: tokens) ++
          .closeObject :: rest) = .ok (final, rest) := by
  induction fills generalizing fuel with
  | nil => exact no_more_members _ _
  | field found empty reads _ ih =>
      obtain ⟨fuel, rfl⟩ : ∃ less, fuel = less + 1 := ⟨fuel - 1, by simp only [List.length_cons] at enough; omega⟩
      simp only [List.map_cons, List.flatMap_cons, List.cons_append, List.append_assoc]
      rw [more_members _ (member_field found empty (reads _))]
      exact ih (Nat.le_of_succ_le_succ enough)

theorem reads_object {blank final : δ} {members : List (String × List Token)} (fills : Fills layout blank members final)
    (nonempty : members ≠ []) (complete : layout.lacking final = none) :
    Reads (layout.read blank) (object members) final := by
  intro rest
  cases fills with
  | nil => exact absurd rfl nonempty
  | @field _ _ _ name tokens others field found empty reads later =>
      rw [object, List.map_cons, separated_cons]
      simp only [List.cons_append, List.append_assoc, List.nil_append]
      refine read_object (member_field found empty (reads _)) (more_members_fill later ?_ rest) complete
      simpa using length_commas (others.map fun member => Token.ofText member.1 :: .colon :: member.2)
        (.closeObject :: rest)

end Objects

section Texts

-- Tokens that can be written one after the other, with no number among them.
def Wordy (tokens : List Token) : Prop := ∀ token ∈ tokens, token.Sound ∧ token.isNumber = false

theorem wordy_readable {tokens : List Token} (wordy : Wordy tokens) : Readable tokens := by
  induction tokens with
  | nil => trivial
  | cons token tokens ih =>
      obtain ⟨sound, other⟩ := wordy token List.mem_cons_self
      refine ⟨sound, fun next more _ => ?_, ih fun next among => wordy next (List.mem_cons_of_mem _ among)⟩
      rw [other, Bool.false_and]

theorem wordy_text (text : String) : Wordy [.ofText text] := by
  intro token among
  cases List.mem_singleton.mp among
  exact ⟨⟨_, rfl⟩, rfl⟩

theorem wordy_separated {parts : List (List Token)} (wordy : ∀ tokens ∈ parts, Wordy tokens) :
    Wordy (separated parts) := by
  cases parts with
  | nil => exact fun token among => nomatch among
  | cons first others =>
      rw [separated_cons]
      intro token among
      simp only [List.mem_append, List.mem_flatMap, List.mem_cons] at among
      rcases among with here | ⟨tokens, later, rfl | there⟩
      · exact wordy first List.mem_cons_self token here
      · exact ⟨trivial, rfl⟩
      · exact wordy tokens (List.mem_cons_of_mem _ later) token there

theorem wordy_array {items : List (List Token)} (wordy : ∀ tokens ∈ items, Wordy tokens) : Wordy (array items) := by
  intro token among
  simp only [array, List.cons_append, List.mem_cons, List.mem_append, List.not_mem_nil, or_false] at among
  rcases among with rfl | inner | rfl
  · exact ⟨trivial, rfl⟩
  · exact wordy_separated wordy token inner
  · exact ⟨trivial, rfl⟩

theorem wordy_object {members : List (String × List Token)} (wordy : ∀ member ∈ members, Wordy member.2) :
    Wordy (object members) := by
  intro token among
  simp only [object, List.cons_append, List.mem_cons, List.mem_append, List.not_mem_nil, or_false] at among
  rcases among with rfl | inner | rfl
  · exact ⟨trivial, rfl⟩
  · refine wordy_separated (fun tokens listed => ?_) token inner
    obtain ⟨member, present, rfl⟩ := List.mem_map.mp listed
    intro token among
    rcases List.mem_cons.mp among with rfl | among
    · exact ⟨⟨_, rfl⟩, rfl⟩
    · rcases List.mem_cons.mp among with rfl | among
      · exact ⟨trivial, rfl⟩
      · exact wordy member present token among
  · exact ⟨trivial, rfl⟩

theorem whole_render {α : Type} {decoder : Decoder α} {tokens : List Token} {value : α} (wordy : Wordy tokens)
    (reads : Reads decoder tokens value) : decoder.whole (render tokens) = .ok value := by
  have read := reads []
  rw [List.append_nil] at read
  simp only [Decoder.whole, scan_render (wordy_readable wordy), read, bind, Except.bind]
  rfl

end Texts
end ConfigRegistry.Json

namespace ConfigRegistry.Catalog

open Json (Reads Fills Wordy)

-- A map is written with its pairs in some order.
def PairsForm (map : KeyMap String) (tokens : List Json.Token) : Prop :=
  ∃ pairs : List (String × String), pairs.Perm map.entries ∧
    tokens = Json.object (pairs.map fun pair => (pair.1, [.ofText pair.2]))

section Pairs

variable {map : KeyMap String} {tokens : List Json.Token}

theorem pairs_tokens_form (map : KeyMap String) : PairsForm map (pairsTokens map) := ⟨map.entries, .refl _, rfl⟩

theorem pairs_read (form : PairsForm map tokens) : Reads (Json.keyMap Json.text) tokens map := by
  obtain ⟨pairs, same, rfl⟩ := form
  have reads := Json.reads_key_map (fun text => [.ofText text]) pairs fun pair _ => Json.reads_text pair.2
  rwa [Json.insert_all_perm map same] at reads

theorem pairs_wordy (form : PairsForm map tokens) : Wordy tokens := by
  obtain ⟨pairs, -, rfl⟩ := form
  refine Json.wordy_object fun member present => ?_
  obtain ⟨pair, -, rfl⟩ := List.mem_map.mp present
  exact Json.wordy_text pair.2

end Pairs

namespace Configuration

def members (configuration : Configuration) (parameters : List Json.Token) : List (String × List Json.Token) :=
  [("id", [.ofText configuration.id]), ("name", [.ofText configuration.name]),
    ("version", [.ofText configuration.version]), ("parameters", parameters)]

def Form (configuration : Configuration) (tokens : List Json.Token) : Prop :=
  ∃ parameters, PairsForm configuration.parameters parameters ∧
    tokens = Json.object (configuration.members parameters)

variable {configuration : Configuration} {parameters tokens : List Json.Token}

theorem tokens_form (configuration : Configuration) : configuration.Form configuration.tokens :=
  ⟨_, pairs_tokens_form _, rfl⟩

theorem members_fill (form : PairsForm configuration.parameters parameters) :
    Fills layout {} (configuration.members parameters) ⟨some configuration.id, some configuration.name,
      some configuration.version, some configuration.parameters⟩ := by
  have id := Json.reads_map (fun id => (⟨some id, none, none, none⟩ : Draft)) (Json.reads_text configuration.id)
  have name := Json.reads_map (fun name => (⟨some configuration.id, some name, none, none⟩ : Draft))
    (Json.reads_text configuration.name)
  have version := Json.reads_map (fun version =>
    (⟨some configuration.id, some configuration.name, some version, none⟩ : Draft))
    (Json.reads_text configuration.version)
  have pairs := Json.reads_map (fun parameters =>
    (⟨some configuration.id, some configuration.name, some configuration.version, some parameters⟩ : Draft))
    (pairs_read form)
  exact .field rfl rfl id <| .field rfl rfl name <| .field rfl rfl version <| .field rfl rfl pairs .nil

theorem form_read (form : configuration.Form tokens) : Reads decoder tokens configuration := by
  obtain ⟨parameters, pairs, rfl⟩ := form
  exact Json.reads_map ofDraft (Json.reads_object (members_fill pairs) (List.cons_ne_nil _ _) rfl)

theorem form_wordy (form : configuration.Form tokens) : Wordy tokens := by
  obtain ⟨parameters, pairs, rfl⟩ := form
  refine Json.wordy_object ?_
  simp only [members, List.forall_mem_cons]
  exact ⟨Json.wordy_text _, Json.wordy_text _, Json.wordy_text _, pairs_wordy pairs, by simp⟩

theorem decode_form (form : configuration.Form tokens) : decoder.whole (Json.render tokens) = .ok configuration :=
  Json.whole_render (form_wordy form) (form_read form)

theorem decode_encode (configuration : Configuration) : decoder.whole configuration.encode = .ok configuration :=
  decode_form configuration.tokens_form

end Configuration

namespace Entry

def members (entry : Entry) (configuration labels : List Json.Token) : List (String × List Json.Token) :=
  [("id", [.ofText entry.id]), ("configuration", configuration), ("labels", labels)]

def Form (entry : Entry) (tokens : List Json.Token) : Prop :=
  ∃ configuration labels, entry.configuration.Form configuration ∧ PairsForm entry.labels labels ∧
    tokens = Json.object (entry.members configuration labels)

variable {entry : Entry} {configuration labels tokens : List Json.Token}

theorem tokens_form (entry : Entry) : entry.Form entry.tokens :=
  ⟨_, _, entry.configuration.tokens_form, pairs_tokens_form _, rfl⟩

theorem members_fill (inner : entry.configuration.Form configuration) (form : PairsForm entry.labels labels) :
    Fills layout {} (entry.members configuration labels)
      ⟨some entry.id, some entry.configuration, some entry.labels⟩ := by
  have id := Json.reads_map (fun id => (⟨some id, none, none⟩ : Draft)) (Json.reads_text entry.id)
  have item := Json.reads_map (fun configuration => (⟨some entry.id, some configuration, none⟩ : Draft))
    (Configuration.form_read inner)
  have pairs := Json.reads_map (fun labels => (⟨some entry.id, some entry.configuration, some labels⟩ : Draft))
    (pairs_read form)
  exact .field rfl rfl id <| .field rfl rfl item <| .field rfl rfl pairs .nil

theorem form_read (form : entry.Form tokens) : Reads decoder tokens entry := by
  obtain ⟨configuration, labels, inner, pairs, rfl⟩ := form
  exact Json.reads_map ofDraft (Json.reads_object (members_fill inner pairs) (List.cons_ne_nil _ _) rfl)

theorem form_wordy (form : entry.Form tokens) : Wordy tokens := by
  obtain ⟨configuration, labels, inner, pairs, rfl⟩ := form
  refine Json.wordy_object ?_
  simp only [members, List.forall_mem_cons]
  exact ⟨Json.wordy_text _, Configuration.form_wordy inner, pairs_wordy pairs, by simp⟩

theorem decode_form (form : entry.Form tokens) : decoder.whole (Json.render tokens) = .ok entry :=
  Json.whole_render (form_wordy form) (form_read form)

end Entry

def EntriesForm (entries : List Entry) (tokens : List Json.Token) : Prop :=
  ∃ written, List.Forall₂ (fun tokens entry => Entry.Form entry tokens) written entries ∧ tokens = Json.array written

section Entries

variable {entries : List Entry} {tokens : List Json.Token}

theorem entries_tokens_form (entries : List Entry) : EntriesForm entries (entriesTokens entries) := by
  refine ⟨entries.map Entry.tokens, ?_, rfl⟩
  rw [List.forall₂_map_left_iff]
  exact List.forall₂_same.mpr fun entry _ => entry.tokens_form

theorem forms_objects {written : List (List Json.Token)}
    (forms : List.Forall₂ (fun tokens entry => Entry.Form entry tokens) written entries) :
    ∀ tokens ∈ written, Wordy tokens ∧ ∃ members, tokens = Json.object members := by
  induction forms with
  | nil => exact fun _ among => nomatch among
  | cons form _ ih =>
      have ⟨_, _, _, _, same⟩ := form
      exact List.forall_mem_cons.mpr ⟨⟨Entry.form_wordy form, _, same⟩, ih⟩

theorem entries_read (form : EntriesForm entries tokens) : Reads (Json.list Entry.decoder) tokens entries := by
  obtain ⟨written, forms, rfl⟩ := form
  apply Json.reads_list (forms.imp fun _ _ form => Entry.form_read form)
  · intro tokens among rest
    obtain ⟨-, members, rfl⟩ := forms_objects forms tokens among
    exact fun same => nomatch same
  · intro tokens among
    obtain ⟨-, members, rfl⟩ := forms_objects forms tokens among
    exact fun same => nomatch same

theorem entries_wordy (form : EntriesForm entries tokens) : Wordy tokens := by
  obtain ⟨written, forms, rfl⟩ := form
  exact Json.wordy_array fun tokens among => (forms_objects forms tokens among).1

end Entries

namespace Group

def members (group : Group) (entries : List Json.Token) : List (String × List Json.Token) :=
  [("id", [.ofText group.id]), ("name", [.ofText group.name]), ("version", [.ofText group.version]),
    ("configurations", entries)]

def Form (group : Group) (tokens : List Json.Token) : Prop :=
  ∃ entries, EntriesForm group.entries entries ∧ tokens = Json.object (group.members entries)

variable {group : Group} {entries tokens : List Json.Token}

theorem tokens_form (group : Group) : group.Form group.tokens := ⟨_, entries_tokens_form _, rfl⟩

theorem members_fill (form : EntriesForm group.entries entries) :
    Fills layout {} (group.members entries)
      ⟨some group.id, some group.name, some group.version, some group.entries⟩ := by
  have id := Json.reads_map (fun id => (⟨some id, none, none, none⟩ : Draft)) (Json.reads_text group.id)
  have name := Json.reads_map (fun name => (⟨some group.id, some name, none, none⟩ : Draft))
    (Json.reads_text group.name)
  have version := Json.reads_map (fun version => (⟨some group.id, some group.name, some version, none⟩ : Draft))
    (Json.reads_text group.version)
  have items := Json.reads_map (fun entries =>
    (⟨some group.id, some group.name, some group.version, some entries⟩ : Draft)) (entries_read form)
  exact .field rfl rfl id <| .field rfl rfl name <| .field rfl rfl version <| .field rfl rfl items .nil

theorem form_read (form : group.Form tokens) : Reads decoder tokens group := by
  obtain ⟨entries, items, rfl⟩ := form
  exact Json.reads_map ofDraft (Json.reads_object (members_fill items) (List.cons_ne_nil _ _) rfl)

theorem form_wordy (form : group.Form tokens) : Wordy tokens := by
  obtain ⟨entries, items, rfl⟩ := form
  refine Json.wordy_object ?_
  simp only [members, List.forall_mem_cons]
  exact ⟨Json.wordy_text _, Json.wordy_text _, Json.wordy_text _, entries_wordy items, by simp⟩

theorem decode_form (form : group.Form tokens) : decoder.whole (Json.render tokens) = .ok group :=
  Json.whole_render (form_wordy form) (form_read form)

theorem decode_encode (group : Group) : decoder.whole group.encode = .ok group := decode_form group.tokens_form

end Group
end ConfigRegistry.Catalog
