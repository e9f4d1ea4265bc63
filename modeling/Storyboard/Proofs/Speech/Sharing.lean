import Mathlib
import Storyboard.Proofs.Speech.Naming

/-!
What the name of an asset tells. Slugs may contain the dash that joins slug, voice and key, but
voices contain none and all keys have the same length, so that a name can be taken apart. Two cues
therefore have a file in common only if they have the same voice and are spoken the same, or the
digest of two different texts is the same.
-/

namespace Storyboard

/-! ### Keys -/

namespace Text

theorem hexChar_injective : ∀ d < 16, ∀ d' < 16, hexChar d = hexChar d' → d = d' := by
  decide

theorem length_hexDigits (count n : Nat) : (hexDigits count n).length = count := by
  induction count generalizing n with
  | zero => rfl
  | succ count ih => rw [hexDigits, List.length_append, ih, List.length_singleton]

theorem hexDigits_injective {count n m : Nat} (hn : n < 16 ^ count) (hm : m < 16 ^ count)
    (h : hexDigits count n = hexDigits count m) : n = m := by
  induction count generalizing n m with
  | zero => omega
  | succ count ih =>
      rw [Nat.pow_succ] at hn hm
      obtain ⟨hhigh, hlow⟩ := List.append_inj' h rfl
      have hquotient := ih (Nat.div_lt_of_lt_mul (Nat.mul_comm _ _ ▸ hn))
        (Nat.div_lt_of_lt_mul (Nat.mul_comm _ _ ▸ hm)) hhigh
      have hremainder := hexChar_injective _ (Nat.mod_lt _ (by decide)) _
        (Nat.mod_lt _ (by decide)) (List.cons.inj hlow).1
      omega

end Text

namespace AssetName

variable {voice voice' text text' : String}

theorem length_key (voice text : String) : (key voice text).toList.length = 16 := by
  rw [key, String.toList_ofList, Text.length_hexDigits]

theorem digest_eq_of_key (h : key voice text = key voice' text') :
    Digest.digest seed (keyed voice text).toUTF8.data =
      Digest.digest seed (keyed voice' text').toUTF8.data := by
  rw [key, key, String.ofList_inj] at h
  exact UInt64.toNat_inj.mp (Text.hexDigits_injective (UInt64.toNat_lt _) (UInt64.toNat_lt _) h)

/-! ### Taking names apart -/

section Append

variable {α : Type} {a : α} {front front' back back' : List α}

theorem append_cons_inj (h : a ∉ front) (h' : a ∉ front')
    (heq : front ++ a :: back = front' ++ a :: back') : front = front' ∧ back = back' := by
  obtain ⟨between, hfront, hback⟩ | ⟨between, hfront, hback⟩ := List.append_eq_append_iff.mp heq
  all_goals
    cases between with
    | nil => simp_all
    | cons b between =>
        obtain ⟨rfl, -⟩ := List.cons.inj hback
        simp_all

theorem append_cons_inj' (h : a ∉ back) (h' : a ∉ back')
    (heq : front ++ a :: back = front' ++ a :: back') : front = front' ∧ back = back' := by
  have hreverse := congrArg List.reverse heq
  simp only [List.reverse_append, List.reverse_cons, List.append_assoc, List.singleton_append]
    at hreverse
  obtain ⟨hback, hfront⟩ := append_cons_inj (mt List.mem_reverse.mp h) (mt List.mem_reverse.mp h')
    hreverse
  exact ⟨List.reverse_injective hfront, List.reverse_injective hback⟩

end Append

theorem not_mem_voice {c : Char} (h : Cue.isVoice voice) (hc : Text.isWordChar c = false) :
    c ∉ voice.toList := by
  rw [Cue.isVoice, Bool.and_eq_true, List.all_eq_true] at h
  intro hmem
  rw [h.2 c hmem] at hc
  cases hc

theorem basename_injective (hvoice : Cue.isVoice voice) (hvoice' : Cue.isVoice voice')
    (h : basename text voice = basename text' voice') :
    voice = voice' ∧ slug text = slug text' ∧ key voice text = key voice' text' := by
  have hlist := congrArg String.toList h
  simp only [basename, String.toList_append] at hlist
  obtain ⟨hfront, hkey⟩ := List.append_inj' hlist (by rw [length_key, length_key])
  have hjoined := List.append_cancel_right hfront
  rw [List.append_assoc, List.append_assoc] at hjoined
  obtain ⟨hslug, hvoices⟩ := append_cons_inj' (not_mem_voice hvoice (by decide))
    (not_mem_voice hvoice' (by decide)) hjoined
  exact ⟨String.toList_inj.mp hvoices, String.toList_inj.mp hslug, String.toList_inj.mp hkey⟩

theorem keyed_injective (hvoice : Cue.isVoice voice) (hvoice' : Cue.isVoice voice')
    (h : (keyed voice text).toUTF8.data = (keyed voice' text').toUTF8.data) :
    voice = voice' ∧ text = text' := by
  have hlist := congrArg String.toList (String.toByteArray_inj.mp (ByteArray.ext h))
  simp only [keyed, String.toList_append, List.append_assoc] at hlist
  obtain ⟨hvoices, htexts⟩ := append_cons_inj (not_mem_voice hvoice (by decide))
    (not_mem_voice hvoice' (by decide)) hlist
  exact ⟨String.toList_inj.mp hvoices, String.toList_inj.mp (List.cons.inj htexts).2⟩

/-! ### Slugs -/

/-- One to 48 characters that are kept, without a dash at the front and without two dashes side by
side. -/
structure IsSlug (s : List Char) : Prop where
  nonempty : s ≠ []
  length : s.length ≤ 48
  chars : ∀ c ∈ s, Text.isWordChar c ∨ c = '-'
  front : s.head? ≠ some '-'
  single : ¬ ['-', '-'] <:+: s

/-- Dashes are not put side by side, nor behind a dash that was there before. -/
theorem isChain_dashed (afterDash : Bool) (s : List Char) :
    (dashed afterDash s).IsChain (fun a b => a = '-' → b ≠ '-') ∧
      (afterDash = true → ∀ c ∈ (dashed afterDash s).head?, c ≠ '-') := by
  induction s generalizing afterDash with
  | nil => simp [dashed]
  | cons c rest ih =>
      rw [dashed]
      generalize (if isSlugChar c then c else '-') = d
      by_cases hdash : d = '-'
      · obtain ⟨hchain, hhead⟩ := ih true
        rw [if_pos hdash]
        cases afterDash with
        | true => exact ⟨hchain, hhead⟩
        | false =>
            refine ⟨List.isChain_cons.mpr ⟨fun c hc _ => hhead rfl c hc, hchain⟩, ?_⟩
            intro hfalse
            cases hfalse
      · rw [if_neg hdash]
        refine ⟨List.isChain_cons.mpr ⟨fun _ _ hd => absurd hd hdash, (ih false).1⟩, ?_⟩
        rintro - c hc rfl
        exact hdash (Option.some.inj hc)

theorem starts_trimDashes (s : List Char) : trimDashes s <+: s.dropWhile isDash := by
  rw [trimDashes, ← List.reverse_suffix, List.reverse_reverse]
  exact List.dropWhile_suffix _

theorem isSlug_slug (text : String) : IsSlug (slug text).toList := by
  have hchars : ∀ c ∈ (slug text).toList, Text.isWordChar c ∨ c = '-' := by
    intro c hc
    have hkept := isSlugChar_of_mem_slug c hc
    rwa [isSlugChar, Bool.or_eq_true, decide_eq_true_eq] at hkept
  cases hs : (trimDashes (dashed false text.toList)).take slugLimit with
  | nil =>
      have hslug : slug text = emptySlug := by rw [slug, hs]
      rw [hslug] at hchars ⊢
      exact ⟨by decide, by decide, hchars, by decide, by decide⟩
  | cons c s =>
      have hslug : (slug text).toList = c :: s := by rw [slug, hs, String.toList_ofList]
      have hstart : c :: s <+: (dashed false text.toList).dropWhile isDash := by
        rw [← hs]
        exact List.IsPrefix.trans ( List.take_prefix _ _) (starts_trimDashes _)
      rw [hslug] at hchars ⊢
      refine ⟨List.cons_ne_nil _ _, hs ▸ List.length_take_le _ _, hchars, ?_, ?_⟩
      · obtain ⟨back, hback⟩ := hstart
        have hfront := List.head?_dropWhile_not isDash (dashed false text.toList)
        rw [← hback, List.cons_append, List.head?_cons] at hfront
        rintro ⟨⟩
        cases hfront
      · intro hdashes
        have hinner := hdashes.trans (hstart.isInfix.trans (List.dropWhile_suffix _).isInfix)
        have hchain := List.IsChain.infix (isChain_dashed false text.toList).1 hinner
        simp at hchain

end AssetName

/-! ### Assets -/

namespace Asset

/-- Two different texts of which the digest is the same. -/
def Collide (a b : Asset) : Prop :=
  (AssetName.keyed a.voice a.text).toUTF8.data ≠ (AssetName.keyed b.voice b.text).toUTF8.data ∧
    Digest.digest AssetName.seed (AssetName.keyed a.voice a.text).toUTF8.data =
      Digest.digest AssetName.seed (AssetName.keyed b.voice b.text).toUTF8.data

end Asset

/-- Voices of cues in timelines that pass the check. -/
def Cue.AcceptedVoice (voice : String) : Prop :=
  ∃ t : Timeline, t.check = .ok () ∧ ∃ i ∈ t.items, ∃ c ∈ i.speech, c.voice = voice

theorem Cue.AcceptedVoice.isVoice {voice : String} (h : Cue.AcceptedVoice voice) :
    Cue.isVoice voice := by
  obtain ⟨t, hcheck, i, hi, c, hc, rfl⟩ := h
  exact Timeline.isVoice_of_check hcheck hi hc

/-- Slugs are short, plain and never end up with stray dashes in front or inside; a name tells its
slug, voice and key apart, and what a key is taken of tells voice and text apart. So cues of
timelines that pass the check, in whatever studio, have a file in common only if they have the same
voice and are spoken the same, or the digest is the same for two different texts. -/
theorem Asset.names_tell_apart :
    (∀ text, AssetName.IsSlug (AssetName.slug text).toList) ∧
    (∀ text text' voice voice', Cue.AcceptedVoice voice → Cue.AcceptedVoice voice' →
      (AssetName.basename text voice = AssetName.basename text' voice' → voice = voice' ∧
        AssetName.slug text = AssetName.slug text' ∧
          AssetName.key voice text = AssetName.key voice' text') ∧
      ((AssetName.keyed voice text).toUTF8.data = (AssetName.keyed voice' text').toUTF8.data →
        voice = voice' ∧ text = text')) ∧
    ∀ (o o' : StudioOptions) (t t' : Timeline), t.check = .ok () → t'.check = .ok () →
      ∀ i ∈ t.items, ∀ c ∈ i.speech, ∀ i' ∈ t'.items, ∀ c' ∈ i'.speech,
        (ofCue o t.name c).Shares (ofCue o' t'.name c') →
          (c.voice = c'.voice ∧ Pronunciation.apply c.text = Pronunciation.apply c'.text) ∨
            (ofCue o t.name c).Collide (ofCue o' t'.name c') := by
  refine ⟨AssetName.isSlug_slug, ?_, ?_⟩
  · intro text text' voice voice' hvoice hvoice'
    exact ⟨AssetName.basename_injective hvoice.isVoice hvoice'.isVoice,
      AssetName.keyed_injective hvoice.isVoice hvoice'.isVoice⟩
  · intro o o' t t' ht ht' i hi c hc i' hi' c' hc' hshares
    have hvoice := Timeline.isVoice_of_check ht hi hc
    have hvoice' := Timeline.isVoice_of_check ht' hi' hc'
    have hbase := base_eq_of_shares (Timeline.check_eq_ok.mp ht).1 hvoice
      (Timeline.check_eq_ok.mp ht').1 hvoice' hshares
    obtain ⟨-, -, hkey⟩ := AssetName.basename_injective hvoice hvoice' hbase
    by_cases hsame : c.voice = c'.voice ∧ Pronunciation.apply c.text = Pronunciation.apply c'.text
    · exact .inl hsame
    · exact .inr ⟨mt (AssetName.keyed_injective hvoice hvoice') hsame,
        AssetName.digest_eq_of_key hkey⟩

def soundAlikes : Timeline :=
  ⟨"d", [.card ⟨"A", none, .zero, [⟨"Traefik", "v", .inEnd, .zero⟩,
    ⟨"traffic", "v", .inEnd, .zero⟩], []⟩]⟩

/-- What is spoken the same shares its files, and what has another slug has another name. -/
theorem Asset.names_tell_apart_soundAlikes :
    soundAlikes.check = .ok () ∧
    (∃ i ∈ soundAlikes.items, ∃ c ∈ i.speech, ∃ c' ∈ i.speech, c.text ≠ c'.text ∧
      (ofCue .standard "d" c).Shares (ofCue .standard "d" c') ∧
        ((c.voice = c'.voice ∧ Pronunciation.apply c.text = Pronunciation.apply c'.text) ∨
          (ofCue .standard "d" c).Collide (ofCue .standard "d" c'))) ∧
    AssetName.basename "hi" "v" ≠ AssetName.basename "yo" "v" := by
  have hcheck : soundAlikes.check = .ok () := by decide
  have hvoice : Cue.AcceptedVoice "v" :=
    ⟨soundAlikes, hcheck, _, List.mem_cons_self, _, List.mem_cons_self, rfl⟩
  obtain ⟨-, hnames, hfiles⟩ := names_tell_apart
  refine ⟨hcheck, ⟨_, List.mem_cons_self, _, List.mem_cons_self, _,
    List.mem_cons_of_mem _ List.mem_cons_self, by decide, ?_⟩, ?_⟩
  · have hspoken : Pronunciation.apply "Traefik" = Pronunciation.apply "traffic" := by
      decide +kernel
    have hshares : (ofCue .standard "d" ⟨"Traefik", "v", .inEnd, .zero⟩).Shares
        (ofCue .standard "d" ⟨"traffic", "v", .inEnd, .zero⟩) := by
      refine ⟨_, List.mem_cons_self, _, List.mem_cons_self, ?_⟩
      rw [speech_ofCue, speech_ofCue, base, base, hspoken]
    exact ⟨hshares, hfiles .standard .standard soundAlikes soundAlikes hcheck hcheck _
      List.mem_cons_self _ List.mem_cons_self _ List.mem_cons_self _
      (List.mem_cons_of_mem _ List.mem_cons_self) hshares⟩
  · intro hname
    obtain ⟨-, hslug, -⟩ := (hnames "hi" "yo" "v" "v" hvoice hvoice).1 hname
    exact absurd hslug (by decide)

end Storyboard
