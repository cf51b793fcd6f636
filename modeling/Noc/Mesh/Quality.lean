import Noc.Foundation.Json

/-!
# Mesh quality

The quality records of `core/mesh/quality/quality.c`, their codecs, and the
fixed report the daemon hands out.
-/

namespace Noc
namespace Mesh

open Foundation
open Foundation.Json

structure Quality where
  destLink : Option String := none
  channel : Int32 := 0
  upLink : Bool := false
  downLink : Bool := false
  txLink : Int32 := 0
  snr : Int32 := 0
  noiseFloor : Int32 := 0
  txTotal : Int32 := 0
  rxTotal : Int32 := 0
  deriving DecidableEq, Repr

structure QualityProfile where
  srcLink : Option String := none
  qualityList : List Quality := []
  deriving DecidableEq, Repr

/-!
## Codecs

A profile without qualities leaves the member out.
-/

def cvtQualityToJson (quality : Quality) : Json :=
  mkObject
    [("dest_link", ofString quality.destLink),
     ("channel", ofInt quality.channel),
     ("up_link", ofBool quality.upLink),
     ("down_link", ofBool quality.downLink),
     ("tx_link", ofInt quality.txLink),
     ("snr", ofInt quality.snr),
     ("noise_floor", ofInt quality.noiseFloor),
     ("tx_total", ofInt quality.txTotal),
     ("rx_total", ofInt quality.rxTotal)]

def cvtJsonToQuality (json : Option Json) : Quality :=
  { destLink := readString json "dest_link"
    channel := readInt json "channel"
    upLink := readTrue json "up_link"
    downLink := readTrue json "down_link"
    txLink := readInt json "tx_link"
    snr := readInt json "snr"
    noiseFloor := readInt json "noise_floor"
    txTotal := readInt json "tx_total"
    rxTotal := readInt json "rx_total" }

def cvtQualityProfileToJson (profile : QualityProfile) : Json :=
  mkObject
    [("src_link", ofString profile.srcLink),
     ("quality",
       if profile.qualityList = [] then none
       else some (encodeList cvtQualityToJson profile.qualityList))]

def cvtJsonToQualityProfile (json : Option Json) : QualityProfile :=
  { srcLink := readString json "src_link"
    qualityList := decodeList cvtJsonToQuality (readArray json "quality") }

def cvtQualityProfileListToJson (profiles : List QualityProfile) : Json :=
  encodeList cvtQualityProfileToJson profiles

def cvtJsonToQualityProfileList (json : Option Json) : List QualityProfile :=
  decodeList cvtJsonToQualityProfile json

theorem cvtJsonToQuality_cvtQualityToJson (quality : Quality) :
    cvtJsonToQuality (some (cvtQualityToJson quality)) = quality := by
  simp [cvtJsonToQuality, cvtQualityToJson, readString, readInt, readTrue]

theorem cvtJsonToQualityProfile_cvtQualityProfileToJson
    (profile : QualityProfile) :
    cvtJsonToQualityProfile (some (cvtQualityProfileToJson profile)) =
      profile := by
  have hlist : decodeList cvtJsonToQuality
      (some (encodeList cvtQualityToJson profile.qualityList)) =
        profile.qualityList :=
    decodeList_encodeList fun quality _ =>
      cvtJsonToQuality_cvtQualityToJson quality
  cases profile with
  | mk srcLink qualityList =>
      by_cases hempty : qualityList = []
      · simp [cvtJsonToQualityProfile, cvtQualityProfileToJson, readString,
          readArray, hempty, arrayValue]
      · simp [cvtJsonToQualityProfile, cvtQualityProfileToJson, readString,
          readArray, hempty]
        exact hlist

@[simp] theorem cvtJsonToQualityProfileList_cvtQualityProfileListToJson
    (profiles : List QualityProfile) :
    cvtJsonToQualityProfileList (some (cvtQualityProfileListToJson profiles)) =
      profiles :=
  decodeList_encodeList fun profile _ =>
    cvtJsonToQualityProfile_cvtQualityProfileToJson profile

/-!
## The report

Its `downlink` is not the key the decoder looks for.
-/

def mockQuality : Json :=
  .obj
    [("dest_link", .str "NovaAgent1"),
     ("channel", .num 1),
     ("up_link", .bool true),
     ("downlink", .bool false),
     ("tx_link", .num 12),
     ("snr", .num 13),
     ("noise_floor", .num 11),
     ("tx_total", .num 12),
     ("rx_total", .num 3)]

def mockQualityProfile : Json :=
  .arr
    [.obj
      [("src_link", .str "NovaController"),
       ("quality", .arr [mockQuality, mockQuality])]]

def getMeshQuality : List QualityProfile :=
  cvtJsonToQualityProfileList (some mockQualityProfile)

end Mesh
end Noc
