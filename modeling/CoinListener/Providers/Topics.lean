import CoinListener.Providers.EvmRescan

/-! Addresses as log topics and back, and the direction of a transfer that a scan has asked for. -/
namespace CoinListener.Providers.Evm
open Foundation

/-- `0x` and so many hexadecimal digits. -/
def HexText (text : String) (length : Nat) : Prop :=
  ∃ digits, text.toList = '0' :: 'x' :: digits ∧ digits.length = length ∧
    digits.all is_ascii_hexdigit = true

section
variable {text address topic : String} {digits : List Char} {length : Nat} {kind : String}

theorem normalize_hex_iff : normalize_hex text length kind = .ok digits ↔
    text.toList = '0' :: 'x' :: digits ∧ digits.length = length ∧
      digits.all is_ascii_hexdigit = true := by
  unfold normalize_hex
  split
  · rename_i rest hlist
    split
    · rename_i hbad
      refine iff_of_false (fun h => nomatch h) ?_
      rintro ⟨hlist', hlength, hall⟩
      obtain rfl : rest = digits := by simpa using hlist.symm.trans hlist'
      exact absurd hbad (by simp [hlength, hall])
    · rename_i hgood
      rw [not_or, not_not, not_not] at hgood
      constructor
      · intro h
        obtain rfl := Except.ok.inj h
        exact ⟨hlist, hgood⟩
      · rintro ⟨hlist', _⟩
        obtain rfl : rest = digits := by simpa using hlist.symm.trans hlist'
        rfl
  · rename_i hlist
    exact iff_of_false (fun h => nomatch h) fun h => hlist digits h.1

/-- Exactly the addresses of forty hexadecimal digits have a topic. -/
theorem address_to_topic_accepts :
    (∃ topic, address_to_topic address = .ok topic) ↔ HexText address 40 := by
  constructor
  · rintro ⟨topic, h⟩
    obtain ⟨digits, hdigits, _⟩ := bind_ok h
    exact ⟨digits, normalize_hex_iff.mp hdigits⟩
  · rintro ⟨digits, hdigits⟩
    refine ⟨"0x000000000000000000000000" ++ String.ofList (digits.map Text.asciiLower), ?_⟩
    rw [address_to_topic, normalize_hex_iff.mpr hdigits]
    rfl

theorem is_ascii_hexdigit_lower (c : Char) :
    is_ascii_hexdigit (Text.asciiLower c) = is_ascii_hexdigit c :=
  congrArg Option.isSome (hex_value_lower c)

theorem all_hexdigit_lower : (digits.map Text.asciiLower).all is_ascii_hexdigit =
    digits.all is_ascii_hexdigit := by
  rw [List.all_map]
  exact congrArg digits.all (funext is_ascii_hexdigit_lower)

/-- The digits of a lower case spelling. -/
theorem lower_hex (h : text.toList = '0' :: 'x' :: digits) :
    (Text.toAsciiLowercase text).toList = '0' :: 'x' :: digits.map Text.asciiLower := by
  have hzero : Text.asciiLower '0' = '0' := by decide
  have hx : Text.asciiLower 'x' = 'x' := by decide
  rw [Text.toAsciiLowercase, h, String.toList_ofList, List.map_cons, List.map_cons, hzero, hx]

theorem lower_zeros : (List.replicate 24 '0').map Text.asciiLower = List.replicate 24 '0' := by
  decide

/-- The address that a topic was made of comes back in lower case. -/
theorem topic_of_address (h : address_to_topic address = .ok topic) :
    topic_to_address topic = .ok (Text.toAsciiLowercase address) := by
  obtain ⟨digits, hdigits, _⟩ := bind_ok h
  obtain ⟨_, _, hall⟩ := normalize_hex_iff.mp hdigits
  obtain ⟨digits', haddress, hlength, htopic⟩ := address_to_topic_ok h
  obtain rfl : digits = digits' := by
    simpa using (normalize_hex_iff.mp hdigits).1.symm.trans haddress
  have hzeros : (List.replicate 24 '0').all is_ascii_hexdigit = true := by decide
  have hnormal : normalize_hex topic 64 "topic" =
      .ok (List.replicate 24 '0' ++ digits.map Text.asciiLower) := by
    refine normalize_hex_iff.mpr ⟨htopic, by simp [hlength], ?_⟩
    rw [List.all_append, hzeros, all_hexdigit_lower, hall]
    rfl
  have hlower : "0x" ++ String.ofList (digits.map Text.asciiLower) =
      Text.toAsciiLowercase address := by
    apply String.toList_injective
    rw [lower_hex haddress]
    simp
  rw [topic_to_address, hnormal]
  simp [ensure, hlower, bind, Except.bind, pure, Except.pure]

/-- The topic that an address was taken from comes back in lower case. -/
theorem address_of_topic (h : topic_to_address topic = .ok address) :
    address_to_topic address = .ok (Text.toAsciiLowercase topic) := by
  obtain ⟨digits, hdigits, _⟩ := bind_ok h
  obtain ⟨hlist, hlength, hall⟩ := normalize_hex_iff.mp hdigits
  obtain ⟨digits', htopic, haddress⟩ := topic_to_address_ok h
  obtain rfl : digits = List.replicate 24 '0' ++ digits' := by simpa using hlist.symm.trans htopic
  rw [List.all_append, Bool.and_eq_true] at hall
  rw [List.length_append, List.length_replicate] at hlength
  have hnormal : normalize_hex address 40 "address" = .ok digits' :=
    normalize_hex_iff.mpr ⟨haddress, by omega, hall.2⟩
  have hlower : "0x000000000000000000000000" ++ String.ofList (digits'.map Text.asciiLower) =
      Text.toAsciiLowercase topic := by
    have hzeros : "0x000000000000000000000000".toList = '0' :: 'x' :: List.replicate 24 '0' := by
      decide
    apply String.toList_injective
    rw [lower_hex htopic, List.map_append, lower_zeros]
    simp [hzeros]
  rw [address_to_topic, hnormal]
  exact congrArg Except.ok hlower

end

/-! ### Directions -/

section
variable {from_address to_address watched : String}

theorem direction_of_receiver (h : Text.eqIgnoreAsciiCase to_address watched = true) :
    evm_transfer_direction from_address to_address watched = "in" ∨
      evm_transfer_direction from_address to_address watched = "self" := by
  unfold evm_transfer_direction
  by_cases hfrom : Text.eqIgnoreAsciiCase from_address watched = true
  · exact .inr (if_pos ⟨hfrom, h⟩)
  · rw [if_neg fun hboth => hfrom hboth.1, if_pos h]
    exact .inl rfl

theorem direction_of_sender (h : Text.eqIgnoreAsciiCase from_address watched = true) :
    evm_transfer_direction from_address to_address watched = "out" ∨
      evm_transfer_direction from_address to_address watched = "self" := by
  unfold evm_transfer_direction
  by_cases hto : Text.eqIgnoreAsciiCase to_address watched = true
  · exact .inr (if_pos ⟨h, hto⟩)
  · rw [if_neg fun hboth => hto hboth.2, if_neg hto, if_pos h]
    exact .inl rfl

end

/-- Addresses and topics are each other's inverse up to case, and a transfer found by a topic of the
watched address has a direction. -/
theorem topics_agree :
    (∀ address, (∃ topic, address_to_topic address = .ok topic) ↔ HexText address 40) ∧
    (∀ address topic, address_to_topic address = .ok topic →
      topic_to_address topic = .ok (Text.toAsciiLowercase address)) ∧
    (∀ topic address, topic_to_address topic = .ok address →
      address_to_topic address = .ok (Text.toAsciiLowercase topic)) ∧
    ∀ (context : ScanAddressContext) (asset : Asset) (log : EvmLog) (token_decimals : Int)
      (transfer : DecodedErc20Transfer) (watched_topic topic0 sender receiver : String)
      (rest : List String), address_to_topic context.address = .ok watched_topic →
      decode_erc20_transfer_log log token_decimals = .ok transfer →
      log.topics = topic0 :: sender :: receiver :: rest →
      (Text.eqIgnoreAsciiCase receiver watched_topic = true →
        (transfer_event_draft context asset transfer).direction = "in" ∨
          (transfer_event_draft context asset transfer).direction = "self") ∧
      (Text.eqIgnoreAsciiCase sender watched_topic = true →
        (transfer_event_draft context asset transfer).direction = "out" ∨
          (transfer_event_draft context asset transfer).direction = "self") := by
  refine ⟨fun _ => address_to_topic_accepts, fun _ _ => topic_of_address,
    fun _ _ => address_of_topic, ?_⟩
  intro context asset log token_decimals transfer watched_topic topic0 sender receiver rest hwatched
    hdecode htopics
  obtain ⟨_, _, _, _, _, htopics', _, _, _, _, _, _, hfrom, hto⟩ := decode_erc20_ok hdecode
  rw [htopics] at htopics'
  obtain ⟨rfl, rfl, rfl, rfl⟩ : _ ∧ _ ∧ _ ∧ _ := by simpa using htopics'
  exact ⟨fun h => direction_of_receiver ((topic_matches_iff hwatched hto).mp h),
    fun h => direction_of_sender ((topic_matches_iff hwatched hfrom).mp h)⟩

end CoinListener.Providers.Evm
