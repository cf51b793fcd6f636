import Noc.Api.MqttHandler
import Noc.Foundation.Quoting
import Noc.Utils.Cmd

/-!
# The command that publishes on another device

`mqtt_publish_message_to_external` hands its message to `mosquitto_pub` through a
shell, between single quotes.
-/

namespace Noc
namespace Api
namespace Mqtt

open Foundation
open Foundation.Shell
open Utils

def caFileName (ezmId : String) : String :=
  "/data/config/ezm/authen/" ++ ezmId ++ "/cafile.pem"

/-- The text has two blanks between some of its words. -/
def publishCmd (sent : ExternalMessage) (msgStr : String) (port : Int32)
    (secret : String) : String :=
  "mosquitto_pub -h " ++ sent.host ++ " -p " ++ toString port.toInt ++
    "  --cafile " ++ caFileName sent.ezmId ++ " -t 'hub/event/" ++ sent.ezmId ++
    "'  -m '" ++ msgStr ++ "'  --insecure  -u " ++ sent.user ++ "  -P " ++ secret ++
    (if sent.retain then " -r" else "")

def publishWords (sent : ExternalMessage) (msgStr : String) (port : Int32)
    (secret : String) : List String :=
  ["mosquitto_pub", "-h", sent.host, "-p", toString port.toInt, "--cafile",
    caFileName sent.ezmId, "-t", "hub/event/" ++ sent.ezmId, "-m", msgStr,
    "--insecure", "-u", sent.user, "-P", secret] ++
    (if sent.retain then ["-r"] else [])

def publishLine (sent : ExternalMessage) (msgStr : String) (port : Int32)
    (secret : String) : ShellLine where
  helper := .timeout
  cmd := publishCmd sent msgStr port secret
  words := publishWords sent msgStr port secret

/-- What goes into the command without quotes is left alone by a shell. -/
structure PlainArguments (sent : ExternalMessage) (secret : String) : Prop where
  host : Word sent.host
  ezmId : forall c, c ∈ sent.ezmId.toList -> isPlain c = true
  user : Word sent.user
  secret : Word secret

/-!
## Plain words
-/

theorem isPlain_of_isDigit {c : Char} (h : c.isDigit = true) : isPlain c = true := by
  have hne : forall d : Char, d.isDigit = false -> c ≠ d := by
    rintro d hd rfl
    rw [h] at hd
    cases hd
  simp [isPlain, isExpansion, isBlank, startsOperator, operators, hne]

theorem isDigit_of_mem_repr {n : Nat} {c : Char} (h : c ∈ n.repr.toList) :
    c.isDigit = true := by
  rw [Nat.toList_repr] at h
  exact Nat.isDigit_of_mem_toDigits (by decide) (by decide) h

theorem word_toString (port : Int32) : Word (toString port.toInt) := by
  have hrepr : toString port.toInt = if 0 <= port.toInt then port.toInt.toNat.repr
      else "-" ++ (-port.toInt).toNat.repr := Int.repr_eq_if
  have hplain : forall (n : Nat) c, c ∈ n.repr.toList -> isPlain c = true :=
    fun n c hmem => isPlain_of_isDigit (isDigit_of_mem_repr hmem)
  rw [hrepr]
  split
  · refine ⟨?_, ?_, hplain _⟩
    · exact fun hempty => Nat.repr_ne_empty (String.toList_eq_nil_iff.mp hempty)
    · intro hhead
      have hmem := List.mem_of_mem_head? hhead
      exact absurd (isDigit_of_mem_repr hmem) (by decide)
  · unfold Word
    rw [String.toList_append]
    have hminus : PlainWord "-".toList := by decide
    exact hminus.append (hplain _)

/-!
## The words of the command
-/

/-- What stands behind the message. -/
def behindMessage (sent : ExternalMessage) (secret : String) : List Char :=
  ' ' :: ' ' :: ("--insecure".toList ++ ' ' :: ' ' :: ("-u".toList ++
    ' ' :: (sent.user.toList ++ ' ' :: ' ' :: ("-P".toList ++
      ' ' :: (secret.toList ++ ((if sent.retain then " -r" else "").toList ++
        Execl.timeout.tail))))))

def wordsBehind (sent : ExternalMessage) (secret : String) : List (List Char) :=
  "--insecure".toList :: "-u".toList :: sent.user.toList :: "-P".toList ::
    secret.toList :: (if sent.retain then ["-r".toList] else [])

section

variable {sent : ExternalMessage} {msgStr secret : String} {port : Int32}

theorem closing_behindMessage (h : PlainArguments sent secret) :
    Closing (behindMessage sent secret) (wordsBehind sent secret)
      Execl.timeout.redirections := by
  have hend : Closing Execl.timeout.tail [] Execl.timeout.redirections :=
    closing_of_trailing (trailing_tail .timeout) (by decide) (by decide) (by decide)
  have hretain : Closing ((if sent.retain then " -r" else "").toList ++
      Execl.timeout.tail) (if sent.retain then ["-r".toList] else [])
        Execl.timeout.redirections := by
    cases sent.retain with
    | false => exact hend
    | true =>
        have hword : PlainWord "-r".toList := by decide
        exact hend.word hword
  have hoptions : PlainWord "--insecure".toList ∧ PlainWord "-u".toList ∧
      PlainWord "-P".toList := by
    decide
  exact ((((((hretain.word h.secret).word hoptions.2.2).blank).word h.user).word
    hoptions.2.1).blank.word hoptions.1).blank

theorem toList_handed_publishCmd :
    (Execl.timeout.handed (publishCmd sent msgStr port secret)).toList =
      unwords (["mosquitto_pub", "-h", sent.host, "-p", toString port.toInt].map
        String.toList) ++ ' ' :: ' ' ::
      (unwords (["--cafile", caFileName sent.ezmId, "-t"].map String.toList) ++
        ' ' :: '\'' :: (("hub/event/" ++ sent.ezmId).toList ++ '\'' :: ' ' :: ' ' ::
          ("-m".toList ++ ' ' :: '\'' :: (msgStr.toList ++
            '\'' :: behindMessage sent secret)))) := by
  have hpub : "mosquitto_pub -h ".toList =
      "mosquitto_pub".toList ++ ' ' :: ("-h".toList ++ [' ']) := rfl
  have hport : " -p ".toList = ' ' :: ("-p".toList ++ [' ']) := rfl
  have hcafile : "  --cafile ".toList = ' ' :: ' ' :: ("--cafile".toList ++ [' ']) :=
    rfl
  have htopic : " -t 'hub/event/".toList =
      ' ' :: ("-t".toList ++ ' ' :: '\'' :: "hub/event/".toList) := rfl
  have hmessage : "'  -m '".toList =
      '\'' :: ' ' :: ' ' :: ("-m".toList ++ [' ', '\'']) := rfl
  have huser : "'  --insecure  -u ".toList = '\'' :: ' ' :: ' ' ::
      ("--insecure".toList ++ ' ' :: ' ' :: ("-u".toList ++ [' '])) := rfl
  have hsecret : "  -P ".toList = ' ' :: ' ' :: ("-P".toList ++ [' ']) := rfl
  rw [toList_handed]
  unfold publishCmd behindMessage
  simp only [String.toList_append, hpub, hport, hcafile, htopic, hmessage, huser,
    hsecret, List.map_cons, List.map_nil, unwords_cons_cons, unwords_singleton,
    List.append_assoc, List.cons_append, List.nil_append]

theorem plainWord_caFileName (h : PlainArguments sent secret) :
    PlainWord (caFileName sent.ezmId).toList := by
  have hdirectory : PlainWord "/data/config/ezm/authen/".toList := by decide
  have hfile : forall c, c ∈ "/cafile.pem".toList -> isPlain c = true :=
    List.all_eq_true.mp (by decide)
  unfold caFileName
  rw [String.toList_append, String.toList_append]
  exact (hdirectory.append h.ezmId).append hfile

theorem plainWord_front (h : PlainArguments sent secret) {word : List Char}
    (hword : word ∈ ["mosquitto_pub", "-h", sent.host, "-p",
      toString port.toInt].map String.toList) :
    PlainWord word := by
  have hfixed : PlainWord "mosquitto_pub".toList ∧ PlainWord "-h".toList ∧
      PlainWord "-p".toList := by
    decide
  simp only [List.map_cons, List.map_nil, List.mem_cons, List.not_mem_nil,
    or_false] at hword
  rcases hword with rfl | rfl | rfl | rfl | rfl
  · exact hfixed.1
  · exact hfixed.2.1
  · exact h.host
  · exact hfixed.2.2
  · exact word_toString port

theorem plainWord_cafile (h : PlainArguments sent secret) {word : List Char}
    (hword : word ∈ ["--cafile", caFileName sent.ezmId, "-t"].map String.toList) :
    PlainWord word := by
  have hfixed : PlainWord "--cafile".toList ∧ PlainWord "-t".toList := by
    decide
  simp only [List.map_cons, List.map_nil, List.mem_cons, List.not_mem_nil,
    or_false] at hword
  rcases hword with rfl | rfl | rfl
  · exact hfixed.1
  · exact plainWord_caFileName h
  · exact hfixed.2

theorem not_mem_topic (h : PlainArguments sent secret) :
    '\'' ∉ ("hub/event/" ++ sent.ezmId).toList := by
  rw [String.toList_append, List.mem_append, not_or]
  refine ⟨by decide, fun hmem => ?_⟩
  exact ne_quote_of_isPlain (h.ezmId _ hmem) rfl

theorem map_publishWords :
    (publishWords sent msgStr port secret).map String.toList =
      ["mosquitto_pub", "-h", sent.host, "-p", toString port.toInt].map
        String.toList ++ (["--cafile", caFileName sent.ezmId, "-t"].map
          String.toList ++ (("hub/event/" ++ sent.ezmId).toList :: "-m".toList ::
            msgStr.toList :: wordsBehind sent secret)) := by
  unfold publishWords wordsBehind
  cases sent.retain <;> rfl

/-- The shell reads the command as the words it is composed of exactly when the
message has no single quote. -/
theorem safe_publishLine_iff (h : PlainArguments sent secret) :
    (publishLine sent msgStr port secret).Safe <-> '\'' ∉ msgStr.toList := by
  have hmessage : PlainWord "-m".toList := by decide
  unfold ShellLine.Safe
  show Shell.parse (Execl.timeout.handed (publishCmd sent msgStr port secret)).toList =
    some { words := (publishWords sent msgStr port secret).map String.toList,
           redirections := Execl.timeout.redirections } <-> _
  rw [map_publishWords, toList_handed_publishCmd,
    parse_front_blank (fun _ => plainWord_front h) (List.cons_ne_nil _ _),
    map_addWords_eq_iff, parse_blank,
    parse_front_blank (fun _ => plainWord_cafile h) (List.cons_ne_nil _ _),
    map_addWords_eq_iff, parse_quoted_blank (not_mem_topic h), map_addWord_eq_iff,
    parse_blank, parse_word_blank hmessage, map_addWord_eq_iff,
    parse_quoted_iff (closing_behindMessage h)]

end

def pairRequestSent : ExternalMessage where
  host := "10.0.0.2"
  ezmId := "agent-1"
  user := "controller"
  message := .obj []
  retain := false

theorem safe_publishLine_iff_pair :
    (publishLine pairRequestSent "\x7b\"name\":\"hall\"\x7d" 8883 "k3y").Safe ∧
      ¬ (publishLine pairRequestSent "\x7b\"name\":\"Anna's hall\"\x7d" 8883
        "k3y").Safe := by
  have hplain : PlainArguments pairRequestSent "k3y" :=
    { host := by decide
      ezmId := List.all_eq_true.mp (by decide)
      user := by decide
      secret := by decide }
  refine ⟨(safe_publishLine_iff hplain).mpr (by decide), fun hsafe => ?_⟩
  exact absurd ((safe_publishLine_iff hplain).mp hsafe) (by decide)

end Mqtt
end Api
end Noc
