import Noc.Utils.File

/-!
# Credentials of a device

`mqtt_get_authen_info` of `api/mqtt/mqtt_handler.c` and the test that
`mqtt_publish_message_to_external` makes of its code.  The authentication
service of the device is asked three times; an answer is the tree that
`cJSON_Parse` makes of it, if it makes one.  Logging and what is sent to the
service are not modelled.
-/

namespace Noc
namespace Api
namespace Mqtt

open Foundation
open Foundation.Exec
open Foundation.Json
open Utils

/-!
## Codes

The ones of `authen_code_t` the daemon itself uses.
-/

def noError : Int32 := 0
def serviceIsExisted : Int32 := 1
def serviceIsNotAvailable : Int32 := 9

/-- `valueint` of an item of any kind; the parser sets it for `true`. -/
def valueint : Json -> Int32
  | .num value => valueInt value
  | .bool true => 1
  | _ => 0

/-!
## State

The two files of a device, and the port that is handed out.
-/

inductive AuthenFile where
  | secret
  | cafile
  deriving DecidableEq, Repr

structure ExternalMessage where
  host : String
  ezmId : String
  user : String
  message : Json
  retain : Bool

/-- A call of `mosquitto_pub`. -/
structure MosquittoPub where
  sent : ExternalMessage
  port : Int32
  secret : Option Body

structure AuthenState where
  files : FileState AuthenFile
  mqttPort : Int32
  published : List MosquittoPub

abbrev Authen (α : Type) : Type := Exec AuthenState Fault α

def onFiles {α : Type} (program : Exec (FileState AuthenFile) Fault α) : Authen α :=
  zoom AuthenState.files (fun files s => { s with files := files }) program

structure Answers where
  register : Option Json
  login : Option Json
  brokerInfo : Option Json

/-!
## Getting the credentials
-/

def succeeds (answer : Option Json) : Bool :=
  trueValue (getItem answer "success")

/-- A code that stands in the answer takes the place of the one before. -/
def readCode (authenRet : Int32) (answer : Option Json) : Authen Int32 :=
  match readObject answer "error_info" with
  | none => return authenRet
  | some error => do
      let code <- deref Fault.nullField (getItem (some error) "code")
      return valueint code

def secretOf (register : Option Json) : Option String :=
  (getItem register "authen_info").bind fun info => readString (some info) "secret"

def tokenOf (login : Option Json) : Option String :=
  (getItem login "jwt_info").bind fun info => readString (some info) "token"

/-- The secret of a new registration is written, that of an old one is read.  It
is only set where the answer carries it. -/
def storeSecret (authenRet : Int32) (secret : Option String) : Authen Unit :=
  if authenRet = noError then do
    let secret <- deref Fault.nullField secret
    let _ <- onFiles (writeData (.text secret) .secret truncateMode)
    return ()
  else do
    let _ <- onFiles (readData .secret)
    return ()

/-- The code of a refused request is looked for in the answer to the first. -/
def readBrokerInfo (authenRet : Int32) (answers : Answers) : Authen Int32 :=
  match answers.brokerInfo with
  | none => return serviceIsNotAvailable
  | some response =>
      if succeeds (some response) then
        match getItem (some response) "broker_info" with
        | none => return authenRet
        | some info => do
            let port <- deref Fault.nullField (getItem (some info) "port")
            let cafile <- deref Fault.nullField (readString (some info) "cafile")
            let _ <- onFiles (writeData (.text cafile) .cafile truncateMode)
            modify fun s => { s with mqttPort := valueint port }
            return authenRet
      else readCode authenRet answers.register

/-- A login without a token goes on like one with it. -/
def loginAndRequest (authenRet : Int32) (answers : Answers) : Authen Int32 :=
  match answers.login with
  | none => return serviceIsNotAvailable
  | some response =>
      if succeeds (some response) then readBrokerInfo authenRet answers
      else readCode authenRet (some response)

def mqttGetAuthenInfo (answers : Answers) : Authen Int32 :=
  match answers.register with
  | none => return serviceIsNotAvailable
  | some response => do
      let authenRet <-
        if succeeds (some response) then pure noError
        else readCode noError (some response)
      if authenRet = noError ∨ authenRet = serviceIsExisted then
        storeSecret authenRet
          (if succeeds (some response) then secretOf (some response) else none)
        loginAndRequest authenRet answers
      else return authenRet

/-!
## Publishing
-/

/-- What `mqtt_publish_message_to_external` does with the code. -/
def publishWith (retCode : Int32) (message : ExternalMessage) : Authen Int32 :=
  if retCode ≠ noError ∧ retCode ≠ serviceIsExisted then return -1
  else do
    let secret <- onFiles (readData .secret)
    modify fun s =>
      { s with published := s.published ++ [⟨message, s.mqttPort, secret⟩] }
    return 0

def mqttPublishMessageToExternal (answers : Answers) (message : ExternalMessage) :
    Authen Int32 := do
  modify fun s => { s with mqttPort := 8883 }
  let retCode <- mqttGetAuthenInfo answers
  publishWith retCode message

/-- Nothing is published, and nothing else is done. -/
def Stops (retCode : Int32) (s : AuthenState) : Prop :=
  forall message, publishWith retCode message s = .ok (-1, s)

/-!
## Credentials that were given
-/

structure Authenticated (answers : Answers) (s : AuthenState) : Prop where
  login : succeeds answers.login = true ∧ tokenOf answers.login ≠ none
  broker : succeeds answers.brokerInfo = true
  given : exists info port cafile,
    getItem answers.brokerInfo "broker_info" = some info ∧
    getItem (some info) "port" = some port ∧ s.mqttPort = valueint port ∧
    readString (some info) "cafile" = some cafile ∧
    s.files.content .cafile = some (.text cafile)

/-- The call returns, and with credentials or a code that stops the publishing. -/
def PublishesAuthenticated (answers : Answers) (s : AuthenState) : Prop :=
  wp (mqttGetAuthenInfo answers)
    (fun retCode s' => Stops retCode s' ∨ Authenticated answers s') s

/-- What is read of an object that is there is there as well. -/
structure MembersPresent (answers : Answers) : Prop where
  authenInfo : forall info, getItem answers.register "authen_info" = some info ->
    readString (some info) "secret" ≠ none
  jwtInfo : forall info, getItem answers.login "jwt_info" = some info ->
    readString (some info) "token" ≠ none
  brokerInfo : forall info, getItem answers.brokerInfo "broker_info" = some info ->
    getItem (some info) "port" ≠ none ∧ readString (some info) "cafile" ≠ none
  errorInfo : forall answer, answer ∈ [answers.register, answers.login] ->
    forall error, readObject answer "error_info" = some error ->
      getItem (some error) "code" ≠ none

/-!
## When they are given
-/

/-- The code an answer gives for a refusal. -/
def refusal (answer : Option Json) : Option Int32 :=
  (readObject answer "error_info").bind fun error =>
    (getItem (some error) "code").map valueint

def goesOn (retCode : Int32) : Bool :=
  retCode = noError || retCode = serviceIsExisted

/-- The answer gives a code that stops the publishing. -/
def Refused (answer : Option Json) : Prop :=
  exists retCode, refusal answer = some retCode ∧ goesOn retCode = false

/-- The registration was new and carries the secret, or was made before. -/
def Registered (answers : Answers) : Prop :=
  (succeeds answers.register = true ∧
      getItem answers.register "authen_info" ≠ none) ∨
    (succeeds answers.register = false ∧
      refusal answers.register = some serviceIsExisted)

/-- With a new registration the secret is written, so it can be read; else it has
to be there. -/
def SecretAtHand (answers : Answers) (s : AuthenState) : Prop :=
  succeeds answers.register = false -> s.files.content .secret ≠ none

def BrokerAnswers (answers : Answers) (s : AuthenState) : Prop :=
  answers.brokerInfo = none ∨
    (succeeds answers.brokerInfo = true ∧
      getItem answers.brokerInfo "broker_info" ≠ none ∧
      getItem answers.login "jwt_info" ≠ none ∧ SecretAtHand answers s) ∨
    (succeeds answers.brokerInfo = false ∧ Refused answers.register)

def LoginAnswers (answers : Answers) (s : AuthenState) : Prop :=
  answers.login = none ∨
    (succeeds answers.login = false ∧ Refused answers.login) ∨
    (succeeds answers.login = true ∧ BrokerAnswers answers s)

def ServiceAnswers (answers : Answers) (s : AuthenState) : Prop :=
  answers.register = none ∨
    (succeeds answers.register = false ∧ Refused answers.register) ∨
    (Registered answers ∧ LoginAnswers answers s)

section

variable {answers : Answers} {s : AuthenState} {retCode authenRet : Int32}
  {answer : Option Json} {post : Int32 -> AuthenState -> Prop}

theorem goesOn_iff :
    goesOn retCode = true <-> retCode = noError ∨ retCode = serviceIsExisted := by
  simp [goesOn]

theorem stops_iff : Stops retCode s <-> goesOn retCode = false := by
  rw [← Bool.not_eq_true, goesOn_iff, not_or]
  constructor
  · intro hstops
    rw [← not_or, ← goesOn_iff]
    intro hgoes
    have hrun := hstops ⟨"", "", "", .null, false⟩
    have hreturns : wlp (publishWith retCode ⟨"", "", "", .null, false⟩)
        (fun ret _ => ret = 0) s := by
      unfold publishWith
      rw [if_neg fun h => (goesOn_iff.mp hgoes).elim h.1 h.2, wlp_bind, wlp_iff]
      intro secret s' _
      exact rfl
    have hzero := wlp_iff.mp hreturns (-1) s hrun
    exact absurd hzero (by decide)
  · intro hnot message
    unfold publishWith
    rw [if_pos hnot]
    rfl

theorem wp_readCode (hcode : forall error, readObject answer "error_info" = some error ->
    getItem (some error) "code" ≠ none) :
    wp (readCode authenRet answer) post s <->
      post ((refusal answer).getD authenRet) s := by
  unfold readCode refusal
  cases herror : readObject answer "error_info" with
  | none => exact Iff.rfl
  | some error =>
      rcases Option.ne_none_iff_exists'.mp (hcode error herror) with ⟨code, hcode⟩
      dsimp only
      rw [wp_bind, Option.bind_some, hcode]
      exact Iff.rfl

/-- A code from the answer must stop the publishing if the one before does not. -/
theorem stops_of_refusal (hgoes : goesOn authenRet = true) :
    Stops ((refusal answer).getD authenRet) s <-> Refused answer := by
  rw [stops_iff]
  unfold Refused
  cases refusal answer with
  | none => simp [hgoes]
  | some code => simp

/-!
## Each exchange
-/

/-- What a write leaves. -/
def wrote (file : AuthenFile) (text : String) (s : AuthenState) : AuthenState :=
  { s with files :=
      { store file (.text text) (nextFopen s.files) with locked := false } }

theorem wp_write {file : AuthenFile} {text : String}
    (hopens : forall n, s.files.fopenFails n = false) :
    wp (onFiles (writeData (.text text) file truncateMode)) post s <->
      s.files.locked = false ∧ post 0 (wrote file text s) := by
  unfold onFiles
  rw [wp_zoom, wp_writeData, if_pos (Or.inl rfl), hopens 0,
    if_neg Bool.false_ne_true]
  exact Iff.rfl

theorem publishes_broker (h : MembersPresent answers)
    (hgoes : goesOn authenRet = true) (hlogin : succeeds answers.login = true)
    (hopens : forall n, s.files.fopenFails n = false) :
    wp (readBrokerInfo authenRet answers)
        (fun retCode s' => Stops retCode s' ∨ Authenticated answers s') s <->
      answers.brokerInfo = none ∨
        (succeeds answers.brokerInfo = true ∧
          getItem answers.brokerInfo "broker_info" ≠ none ∧
          getItem answers.login "jwt_info" ≠ none ∧ s.files.locked = false) ∨
        (succeeds answers.brokerInfo = false ∧ Refused answers.register) := by
  have hstays : ¬ Stops authenRet s := by
    rw [stops_iff, hgoes]
    exact Bool.false_ne_true.symm
  have htoken : getItem answers.login "jwt_info" ≠ none <->
      tokenOf answers.login ≠ none := by
    unfold tokenOf
    cases hinfo : getItem answers.login "jwt_info" with
    | none => simp
    | some info => simp [h.jwtInfo info hinfo]
  unfold readBrokerInfo
  cases hbroker : answers.brokerInfo with
  | none => exact iff_of_true (Or.inl (stops_iff.mpr (by decide))) (Or.inl rfl)
  | some response =>
      dsimp only
      cases hsucceeds : succeeds (some response) with
      | false =>
          have hnot : forall s', ¬ Authenticated answers s' := by
            intro s' hauth
            have hsame := hauth.broker
            rw [hbroker, hsucceeds] at hsame
            cases hsame
          rw [if_neg Bool.false_ne_true,
            wp_readCode (h.errorInfo answers.register List.mem_cons_self),
            or_iff_left (hnot s), stops_of_refusal hgoes]
          simp
      | true =>
          rw [if_pos rfl]
          cases hinfo : getItem (some response) "broker_info" with
          | none =>
              have hnot : ¬ Authenticated answers s := by
                intro hauth
                rcases hauth.given with ⟨info, _, _, hsame, _⟩
                rw [hbroker, hinfo] at hsame
                cases hsame
              rw [wp_pure]
              simp [hstays, hnot]
          | some info =>
              rcases h.brokerInfo info (by rw [hbroker, hinfo]) with ⟨hport, hcafile⟩
              rcases Option.ne_none_iff_exists'.mp hport with ⟨port, hport⟩
              rcases Option.ne_none_iff_exists'.mp hcafile with ⟨cafile, hcafile⟩
              dsimp only
              rw [hport, hcafile]
              simp only [wp_bind, wp_deref, Option.some_inj, exists_eq_left',
                wp_write hopens, wp_modify, wp_pure]
              have hauth : Authenticated answers
                  { wrote .cafile cafile s with mqttPort := valueint port } <->
                    tokenOf answers.login ≠ none := by
                constructor
                · intro hauth
                  exact hauth.login.2
                · intro hgiven
                  refine ⟨⟨hlogin, hgiven⟩, by rw [hbroker, hsucceeds], ?_⟩
                  refine ⟨info, port, cafile, by rw [hbroker, hinfo], hport, rfl,
                    hcafile, ?_⟩
                  simp [wrote, store]
              rw [or_iff_right (fun hstop => hstays (stops_iff.mpr (stops_iff.mp hstop))),
                hauth, ← htoken]
              simp [and_comm]

/-- The login, where the registration lets it be asked for. -/
theorem publishes_login (h : MembersPresent answers) (hgoes : goesOn authenRet = true)
    (hopens : forall n, s.files.fopenFails n = false) :
    wp (loginAndRequest authenRet answers)
        (fun retCode s' => Stops retCode s' ∨ Authenticated answers s') s <->
      answers.login = none ∨
        (succeeds answers.login = false ∧ Refused answers.login) ∨
        (succeeds answers.login = true ∧
          (answers.brokerInfo = none ∨
            (succeeds answers.brokerInfo = true ∧
              getItem answers.brokerInfo "broker_info" ≠ none ∧
              getItem answers.login "jwt_info" ≠ none ∧ s.files.locked = false) ∨
            (succeeds answers.brokerInfo = false ∧ Refused answers.register))) := by
  unfold loginAndRequest
  cases hlogin : answers.login with
  | none => exact iff_of_true (Or.inl (stops_iff.mpr (by decide))) (Or.inl rfl)
  | some response =>
      dsimp only
      cases hsucceeds : succeeds (some response) with
      | false =>
          have hnot : ¬ Authenticated answers s := by
            intro hauth
            have hsame := hauth.login.1
            rw [hlogin, hsucceeds] at hsame
            cases hsame
          have hcode := h.errorInfo answers.login
            (List.mem_cons_of_mem _ List.mem_cons_self)
          rw [hlogin] at hcode
          rw [if_neg Bool.false_ne_true, wp_readCode hcode, or_iff_left hnot,
            stops_of_refusal hgoes]
          simp
      | true =>
          rw [if_pos rfl, publishes_broker h hgoes (by rw [hlogin, hsucceeds]) hopens,
            hlogin]
          simp

theorem wp_readSecret (hopens : forall n, s.files.fopenFails n = false)
    {post : Option Body -> AuthenState -> Prop} :
    wp (onFiles (readData .secret)) post s <->
      s.files.locked = false ∧
        post (s.files.content .secret)
          { s with files :=
            { nextFopen s.files with
              locked := (s.files.content .secret).isNone } } := by
  have hopened : opened .secret s.files = s.files.content .secret := by
    unfold opened
    rw [hopens 0, if_neg Bool.false_ne_true]
  unfold onFiles
  rw [wp_zoom, wp_readData, hopened]

/-- Without a secret there is none to write. -/
theorem wp_storeSecret_unset {next : Unit -> Authen Int32} :
    wp (storeSecret noError none >>= next) post s <-> False := by
  unfold storeSecret
  rw [if_pos rfl]
  simp

/-- A new registration, whose secret is written. -/
theorem publishes_registered (h : MembersPresent answers) {response : Json}
    (hregister : answers.register = some response)
    (hsucceeds : succeeds (some response) = true) (hfree : s.files.locked = false)
    (hopens : forall n, s.files.fopenFails n = false) :
    wp (storeSecret noError (secretOf (some response)) >>= fun _ =>
        loginAndRequest noError answers)
      (fun retCode s' => Stops retCode s' ∨ Authenticated answers s') s <->
      getItem answers.register "authen_info" ≠ none ∧ LoginAnswers answers s := by
  have hhand : SecretAtHand answers s := by
    intro hfails
    rw [hregister, hsucceeds] at hfails
    cases hfails
  unfold storeSecret secretOf
  rw [if_pos rfl, hregister]
  cases hinfo : getItem (some response) "authen_info" with
  | none => simp
  | some info =>
      rcases Option.ne_none_iff_exists'.mp
        (h.authenInfo info (by rw [hregister, hinfo])) with ⟨secret, hsecret⟩
      have hlogin := publishes_login (s := wrote .secret secret s) h
        (show goesOn noError = true by decide) fun n => hopens (n + 1)
      have hunlocked : (wrote .secret secret s).files.locked = false := rfl
      rw [Option.bind_some, hsecret]
      simp only [wp_bind, wp_deref, Option.some_inj, exists_eq_left', wp_write hopens,
        wp_pure, hlogin, hfree, hunlocked]
      unfold LoginAnswers BrokerAnswers
      simp [hhand]

/-- A registration that was made before, whose secret is read. -/
theorem publishes_existed (h : MembersPresent answers)
    (hfails : succeeds answers.register = false) (hfree : s.files.locked = false)
    (hopens : forall n, s.files.fopenFails n = false) (secret : Option String) :
    wp (storeSecret serviceIsExisted secret >>= fun _ =>
        loginAndRequest serviceIsExisted answers)
      (fun retCode s' => Stops retCode s' ∨ Authenticated answers s') s <->
      LoginAnswers answers s := by
  have hhand : SecretAtHand answers s <-> (s.files.content .secret).isNone = false := by
    unfold SecretAtHand
    rw [forall_prop_of_true hfails, Option.isNone_eq_false_iff, Option.isSome_iff_ne_none]
  have hlogin := publishes_login
    (s := { s with files :=
      { nextFopen s.files with locked := (s.files.content .secret).isNone } }) h
    (show goesOn serviceIsExisted = true by decide) fun n => hopens (n + 1)
  unfold storeSecret
  rw [if_neg (by decide)]
  simp only [wp_bind, wp_readSecret hopens, wp_pure, hfree, true_and, hlogin]
  unfold LoginAnswers BrokerAnswers
  rw [hhand]

end

/-- The service's answers decide whether the publishing goes on with credentials,
or not at all. -/
theorem publishesAuthenticated_iff {answers : Answers} {s : AuthenState}
    (h : MembersPresent answers) (hfree : s.files.locked = false)
    (hopens : forall n, s.files.fopenFails n = false) :
    PublishesAuthenticated answers s <-> ServiceAnswers answers s := by
  unfold PublishesAuthenticated mqttGetAuthenInfo ServiceAnswers Registered
  cases hregister : answers.register with
  | none => exact iff_of_true (Or.inl (stops_iff.mpr (by decide))) (Or.inl rfl)
  | some response =>
      dsimp only
      cases hsucceeds : succeeds (some response) with
      | true =>
          have hnew := publishes_registered h hregister hsucceeds hfree hopens
          rw [if_pos rfl, if_pos rfl, wp_bind, wp_pure, if_pos (Or.inl rfl), hnew,
            hregister]
          simp
      | false =>
          have hcode := h.errorInfo answers.register List.mem_cons_self
          have hfails : succeeds answers.register = false := by
            rw [hregister, hsucceeds]
          rw [hregister] at hcode
          rw [if_neg Bool.false_ne_true, if_neg Bool.false_ne_true, wp_bind,
            wp_readCode hcode]
          cases hrefusal : refusal (some response) with
          | none =>
              rw [Option.getD_none, if_pos (Or.inl rfl), wp_storeSecret_unset]
              simp [Refused, hrefusal]
          | some code =>
              rw [Option.getD_some]
              by_cases hnone : code = noError
              · rw [hnone, if_pos (Or.inl rfl), wp_storeSecret_unset]
                simp [Refused, hrefusal, hnone, goesOn, noError, serviceIsExisted]
              · by_cases hexisted : code = serviceIsExisted
                · have hold := publishes_existed h hfails hfree hopens none
                  rw [hexisted, if_pos (Or.inr rfl), hold]
                  simp [Refused, hrefusal, hexisted, goesOn]
                · have hstops : goesOn code = false := by
                    simp [goesOn, hnone, hexisted]
                  have hrefused : Refused (some response) := ⟨code, hrefusal, hstops⟩
                  rw [if_neg fun h => h.elim hnone hexisted, wp_pure, stops_iff, hstops]
                  exact iff_of_true (Or.inl rfl) (Or.inr (Or.inl ⟨rfl, hrefused⟩))

/-!
## Answers
-/

def answer (members : List (String × Json)) : Option Json :=
  some (.obj members)

def acceptedRegister : Option Json :=
  answer [("success", .bool true),
    ("authen_info", .obj [("id", .str "ezm"), ("secret", .str "s")])]

def acceptedLogin : Option Json :=
  answer [("success", .bool true), ("jwt_info", .obj [("token", .str "t")])]

def acceptedBroker : Option Json :=
  answer [("success", .bool true),
    ("broker_info", .obj [("port", .num 8883), ("cafile", .str "c"),
      ("address", .str "a")])]

def refusedAnswer : Option Json :=
  answer [("success", .bool false)]

def freshState : AuthenState where
  files := { locked := false, content := fun _ => none, fopenFails := fun _ => false }
  mqttPort := 8883
  published := []

/-- The answers that hand out credentials. -/
def acceptedAnswers : Answers where
  register := acceptedRegister
  login := acceptedLogin
  brokerInfo := acceptedBroker

/-- A login that is refused without a reason. -/
def loginRefused : Answers where
  register := acceptedRegister
  login := refusedAnswer
  brokerInfo := acceptedBroker

def activation : ExternalMessage where
  host := "10.0.0.2"
  ezmId := "ezm_2"
  user := "ezm_1"
  message := .obj []
  retain := true

theorem membersPresent_accepted : MembersPresent acceptedAnswers where
  authenInfo := by
    rintro info ⟨rfl⟩
    exact Option.some_ne_none _
  jwtInfo := by
    rintro info ⟨rfl⟩
    exact Option.some_ne_none _
  brokerInfo := by
    rintro info ⟨rfl⟩
    exact ⟨Option.some_ne_none _, Option.some_ne_none _⟩
  errorInfo := by
    intro other hother error herror
    rcases List.mem_pair.mp hother with rfl | rfl <;> cases herror

theorem membersPresent_loginRefused : MembersPresent loginRefused where
  authenInfo := membersPresent_accepted.authenInfo
  jwtInfo := by
    intro info hinfo
    cases hinfo
  brokerInfo := membersPresent_accepted.brokerInfo
  errorInfo := by
    intro other hother error herror
    rcases List.mem_pair.mp hother with rfl | rfl <;> cases herror

theorem publishesAuthenticated_accepted :
    PublishesAuthenticated acceptedAnswers freshState := by
  refine (publishesAuthenticated_iff membersPresent_accepted rfl fun _ => rfl).mpr ?_
  refine Or.inr (Or.inr ⟨Or.inl ⟨rfl, Option.some_ne_none _⟩, ?_⟩)
  refine Or.inr (Or.inr ⟨rfl, ?_⟩)
  refine Or.inr (Or.inl ⟨rfl, Option.some_ne_none _, Option.some_ne_none _, ?_⟩)
  intro hfails
  cases hfails

/-- The message goes out with no credentials for it. -/
theorem not_publishesAuthenticated_of_loginRefused :
    MembersPresent loginRefused ∧ ¬ PublishesAuthenticated loginRefused freshState ∧
      wp (mqttPublishMessageToExternal loginRefused activation)
        (fun ret s' => ret = 0 ∧ s'.published ≠ [] ∧ s'.files.content .cafile = none)
        freshState := by
  refine ⟨membersPresent_loginRefused, ?_, ?_⟩
  · intro h
    have hends : Stops noError (wrote .secret "s" freshState) ∨
        Authenticated loginRefused (wrote .secret "s" freshState) := h
    rcases hends with hstops | hauth
    · exact absurd (stops_iff.mp hstops) (by decide)
    · exact absurd hauth.login.1 (by decide)
  · exact ⟨rfl, List.cons_ne_nil _ _, rfl⟩

end Mqtt
end Api
end Noc
