import Mathlib.Data.List.Nodup
import TrogonEventStore.Library.Record
import TrogonEventStore.Library.SplitOnce
import TrogonEventStore.ConnectionString

/-! The statistics of a server, parsed from the metrics it reports as texts.

A struct is the function from its fields; the fields of a nested struct are fields of the outer one.
`none` where the source would panic. -/

namespace TrogonEventStore.Stats

open Record SplitOnce

/-- Floating-point numbers as the standard library reads them, and instants as chrono does; an error
is given by its text. A `usize` has 64 bits. -/
structure Numbers where
  F64 : Type
  F32 : Type
  DateTime : Type
  f64 : String → Except String F64
  f32 : String → Except String F32
  dateTime : String → Except String DateTime
  zero64 : F64
  zero32 : F32
  unixEpoch : DateTime

/-- The types of the fields. Free memory is a `usize` that is read in a way of its own. -/
inductive Kind where
  | i64 | usize | f64 | f32 | string | optionalString | dateTime | freeMem
  deriving DecidableEq, Repr

namespace Kind

variable (numbers : Numbers)

def Value : Kind → Type
  | .i64 => Int
  | .usize => Nat
  | .f64 => numbers.F64
  | .f32 => numbers.F32
  | .string => String
  | .optionalString => Option String
  | .dateTime => numbers.DateTime
  | .freeMem => Nat

def default : (kind : Kind) → kind.Value numbers
  | .i64 => (0 : Int)
  | .usize => (0 : Nat)
  | .f64 => numbers.zero64
  | .f32 => numbers.zero32
  | .string => ""
  | .optionalString => none
  | .dateTime => numbers.unixEpoch
  | .freeMem => (0 : Nat)

/-- A number below zero is none; one too large for an `i64` is read as a `usize`. -/
def readFreeMem (value : String) : Except String Nat :=
  match readI64 value with
  | .ok number => .ok (if number < 0 then 0 else number.toNat)
  | .error .negOverflow => .ok 0
  | .error .posOverflow => (readU64 value).mapError ParseIntError.text
  | .error error => .error error.text

/-- `value.parse()`; nothing is stored for an optional text that is `null`. -/
def read : (kind : Kind) → String → Except String (Option (kind.Value numbers))
  | .i64, value => ((readI64 value).mapError ParseIntError.text).map some
  | .usize, value => ((readU64 value).mapError ParseIntError.text).map some
  | .f64, value => (numbers.f64 value).map some
  | .f32, value => (numbers.f32 value).map some
  | .string, value => .ok (some value)
  | .optionalString, value => .ok (if value = "null" then none else some (some value))
  | .dateTime, value => (numbers.dateTime value).map some
  | .freeMem, value => (readFreeMem value).map some

end Kind

class Fields (Field : Type) where
  all : List Field
  key : Field → String
  kind : Field → Kind

inductive Gc where
  | allocationSpeed | gen0ItemsCount | gen0Size | gen1ItemsCount | gen1Size | gen2ItemsCount
  | gen2Size | largeHeapSize | timeInGc | totalBytesInHeaps
  deriving DecidableEq, Repr

instance : Fields Gc where
  all := [.allocationSpeed, .gen0ItemsCount, .gen0Size, .gen1ItemsCount, .gen1Size,
    .gen2ItemsCount, .gen2Size, .largeHeapSize, .timeInGc, .totalBytesInHeaps]
  key
    | .allocationSpeed => "proc-gc-allocationSpeed"
    | .gen0ItemsCount => "proc-gc-gen0ItemsCount"
    | .gen0Size => "proc-gc-gen0Size"
    | .gen1ItemsCount => "proc-gc-gen1ItemsCount"
    | .gen1Size => "proc-gc-gen1Size"
    | .gen2ItemsCount => "proc-gc-gen2ItemsCount"
    | .gen2Size => "proc-gc-gen2Size"
    | .largeHeapSize => "proc-gc-largeHeapSize"
    | .timeInGc => "proc-gc-timeInGc"
    | .totalBytesInHeaps => "proc-gc-totalBytesInHeaps"
  kind
    | .allocationSpeed | .timeInGc => .f64
    | _ => .i64

inductive DiskIo where
  | readBytes | writtenBytes | readOps | writeOps
  deriving DecidableEq, Repr

instance : Fields DiskIo where
  all := [.readBytes, .writtenBytes, .readOps, .writeOps]
  key
    | .readBytes => "proc-diskIo-readBytes"
    | .writtenBytes => "proc-diskIo-writtenBytes"
    | .readOps => "proc-diskIo-readOps"
    | .writeOps => "proc-diskIo-writeOps"
  kind _ := .i64

inductive Tcp where
  | connections | receivingSpeed | sendingSpeed | inSend | measureTime | pendingReceived
  | pendingSend | receivedBytesSinceLastRun | receivedBytesTotal | sentBytesSinceLastRun
  | sentBytesTotal
  deriving DecidableEq, Repr

instance : Fields Tcp where
  all := [.connections, .receivingSpeed, .sendingSpeed, .inSend, .measureTime, .pendingReceived,
    .pendingSend, .receivedBytesSinceLastRun, .receivedBytesTotal, .sentBytesSinceLastRun,
    .sentBytesTotal]
  key
    | .connections => "proc-tcp-connections"
    | .receivingSpeed => "proc-tcp-receivingSpeed"
    | .sendingSpeed => "proc-tcp-sendingSpeed"
    | .inSend => "proc-tcp-inSend"
    | .measureTime => "proc-tcp-measureTime"
    | .pendingReceived => "proc-tcp-pendingReceived"
    | .pendingSend => "proc-tcp-pendingSend"
    | .receivedBytesSinceLastRun => "proc-tcp-receivedBytesSinceLastRun"
    | .receivedBytesTotal => "proc-tcp-receivedBytesTotal"
    | .sentBytesSinceLastRun => "proc-tcp-sentBytesSinceLastRun"
    | .sentBytesTotal => "proc-tcp-sentBytesTotal"
  kind
    | .receivingSpeed | .sendingSpeed => .f64
    | .measureTime => .string
    | _ => .i64

inductive Proc where
  | id | startTime | mem | cpu | threadsCount | thrownExceptionsRate | contentionsRate
  | gc (field : Gc)
  | diskIo (field : DiskIo)
  | tcp (field : Tcp)
  deriving DecidableEq, Repr

instance : Fields Proc where
  all := [.id, .startTime, .mem, .cpu, .threadsCount, .thrownExceptionsRate, .contentionsRate] ++
    (Fields.all.map Proc.gc ++ Fields.all.map Proc.diskIo ++ Fields.all.map Proc.tcp)
  key
    | .id => "proc-id"
    | .startTime => "proc-startTime"
    | .mem => "proc-mem"
    | .cpu => "proc-cpu"
    | .threadsCount => "proc-threadsCount"
    | .thrownExceptionsRate => "proc-thrownExceptionsRate"
    | .contentionsRate => "proc-contentionsRate"
    | .gc field => Fields.key field
    | .diskIo field => Fields.key field
    | .tcp field => Fields.key field
  kind
    | .id | .mem | .threadsCount => .i64
    | .startTime => .dateTime
    | .cpu | .thrownExceptionsRate | .contentionsRate => .f64
    | .gc field => Fields.kind field
    | .diskIo field => Fields.kind field
    | .tcp field => Fields.kind field

inductive LoadAvg where
  | oneM | fiveM | fifteenM
  deriving DecidableEq, Repr

instance : Fields LoadAvg where
  all := [.oneM, .fiveM, .fifteenM]
  key
    | .oneM => "sys-loadavg-1m"
    | .fiveM => "sys-loadavg-5m"
    | .fifteenM => "sys-loadavg-15m"
  kind _ := .f64

/-- The drive is kept apart. -/
inductive Sys where
  | freeMem
  | loadavg (field : LoadAvg)
  deriving DecidableEq, Repr

instance : Fields Sys where
  all := .freeMem :: Fields.all.map Sys.loadavg
  key
    | .freeMem => "sys-freeMem"
    | .loadavg field => Fields.key field
  kind
    | .freeMem => .freeMem
    | .loadavg field => Fields.kind field

inductive Writer where
  | lastFlushSize | lastFlushDelaysMs | meanFlushSize | meanFlushDelaysMs | maxFlushSize
  | maxFlushDelaysMs | queuedFlushMessages
  deriving DecidableEq, Repr

instance : Fields Writer where
  all := [.lastFlushSize, .lastFlushDelaysMs, .meanFlushSize, .meanFlushDelaysMs, .maxFlushSize,
    .maxFlushDelaysMs, .queuedFlushMessages]
  key
    | .lastFlushSize => "es-writer-lastFlushSize"
    | .lastFlushDelaysMs => "es-writer-lastFlushDelayMs"
    | .meanFlushSize => "es-writer-meanFlushSize"
    | .meanFlushDelaysMs => "es-writer-meanFlushDelayMs"
    | .maxFlushSize => "es-writer-maxFlushSize"
    | .maxFlushDelaysMs => "es-writer-maxFlushDelayMs"
    | .queuedFlushMessages => "es-writer-queuedFlushMessages"
  kind
    | .lastFlushDelaysMs | .meanFlushDelaysMs | .maxFlushDelaysMs => .f64
    | _ => .i64

inductive ReadIndex where
  | cachedRecord | notCachedRecord | cachedStreamInfo | notCachedStreamInfo | cachedTransInfo
  | notCachedTransInfo
  deriving DecidableEq, Repr

instance : Fields ReadIndex where
  all := [.cachedRecord, .notCachedRecord, .cachedStreamInfo, .notCachedStreamInfo,
    .cachedTransInfo, .notCachedTransInfo]
  key
    | .cachedRecord => "es-readIndex-cachedRecord"
    | .notCachedRecord => "es-readIndex-notCachedRecord"
    | .cachedStreamInfo => "es-readIndex-cachedStreamInfo"
    | .notCachedStreamInfo => "es-readIndex-notCachedStreamInfo"
    | .cachedTransInfo => "es-readIndex-cachedTransInfo"
    | .notCachedTransInfo => "es-readIndex-notCachedTransInfo"
  kind _ := .i64

inductive Es where
  | checksum | checksumNonFlushed
  | writer (field : Writer)
  | readIndex (field : ReadIndex)
  deriving DecidableEq, Repr

instance : Fields Es where
  all := [.checksum, .checksumNonFlushed] ++
    (Fields.all.map Es.writer ++ Fields.all.map Es.readIndex)
  key
    | .checksum => "es-checksum"
    | .checksumNonFlushed => "es-checksumNonFlushed"
    | .writer field => Fields.key field
    | .readIndex field => Fields.key field
  kind
    | .checksum | .checksumNonFlushed => .i64
    | .writer field => Fields.kind field
    | .readIndex field => Fields.kind field

inductive Metric where
  | proc (field : Proc)
  | sys (field : Sys)
  | es (field : Es)
  deriving DecidableEq, Repr

instance : Fields Metric where
  all := Fields.all.map Metric.proc ++ Fields.all.map Metric.sys ++ Fields.all.map Metric.es
  key
    | .proc field => Fields.key field
    | .sys field => Fields.key field
    | .es field => Fields.key field
  kind
    | .proc field => Fields.kind field
    | .sys field => Fields.kind field
    | .es field => Fields.kind field

inductive DriveStats where
  | availableBytes | totalBytes | usage | usedBytes
  deriving DecidableEq, Repr

instance : Fields DriveStats where
  all := [.availableBytes, .totalBytes, .usage, .usedBytes]
  key
    | .availableBytes => "availableBytes"
    | .totalBytes => "totalBytes"
    | .usage => "usage"
    | .usedBytes => "usedBytes"
  kind
    | .usage => .string
    | _ => .usize

inductive Queue where
  | name | groupName | avgItemsPerSecond | currentIdleTime | currentItemProcessingTime
  | idleTimePercent | lengthCurrentTryPeak | lengthLifetimePeak | length | avgProcessingTime
  | totalItemsProcessed | inProgressMessage | lastProcessedMessage
  deriving DecidableEq, Repr

instance : Fields Queue where
  all := [.name, .groupName, .avgItemsPerSecond, .currentIdleTime, .currentItemProcessingTime,
    .idleTimePercent, .lengthCurrentTryPeak, .lengthLifetimePeak, .length, .avgProcessingTime,
    .totalItemsProcessed, .inProgressMessage, .lastProcessedMessage]
  key
    | .name => "queueName"
    | .groupName => "groupName"
    | .avgItemsPerSecond => "avgItemsPerSecond"
    | .currentIdleTime => "currentIdleTime"
    | .currentItemProcessingTime => "currentItemProcessingTime"
    | .idleTimePercent => "idleTimePercent"
    | .lengthCurrentTryPeak => "lengthCurrentTryPeak"
    | .lengthLifetimePeak => "lengthLifetimePeak"
    | .length => "length"
    | .avgProcessingTime => "avgProcessingTime"
    | .totalItemsProcessed => "totalItemsProcessed"
    | .inProgressMessage => "inProgressMessage"
    | .lastProcessedMessage => "lastProcessedMessage"
  kind
    | .name | .groupName | .inProgressMessage | .lastProcessedMessage => .string
    | .currentIdleTime | .currentItemProcessingTime => .optionalString
    | .avgItemsPerSecond => .usize
    | .avgProcessingTime => .f64
    | .idleTimePercent => .f32
    | _ => .i64

section Structs

variable (numbers : Numbers)

abbrev Struct (Field : Type) [Fields Field] := (field : Field) → (Fields.kind field).Value numbers

def Struct.default {Field : Type} [Fields Field] : Struct numbers Field :=
  fun field => (Fields.kind field).default numbers

structure Drive where
  path : String
  stats : Struct numbers DriveStats

structure Statistics where
  metrics : Struct numbers Metric
  drive : Option (Drive numbers)
  queues : String → Option (Struct numbers Queue)

def Statistics.default : Statistics numbers := ⟨.default numbers, none, fun _ => none⟩

end Structs

abbrev Entry := String × String

variable {numbers : Numbers}

def fieldOf (Field : Type) [Fields Field] (name : String) : Option Field :=
  Fields.all.find? fun field => Fields.key field = name

/-- What an entry stores in the field of this name: nothing when there is no such field. -/
def stored (numbers : Numbers) (Field : Type) [Fields Field] (name : String) (entry : Entry) :
    Except Error (Option (Assignment fun field : Field => (Fields.kind field).Value numbers)) :=
  match fieldOf Field name with
  | none => .ok none
  | some field =>
      match (Fields.kind field).read numbers entry.2 with
      | .ok value => .ok (value.map (Sigma.mk field))
      | .error err => .error
          (.internalParsingError (entry.1 ++ ": " ++ err ++ " = '" ++ entry.2 ++ "'"))

def drivePrefix : List Char := "sys-drive-".toList
def queuePrefix : List Char := "es-queue-".toList

/-- The guards of the match on the key, with what they leave of it. No key of a metric starts with
one of the prefixes. -/
inductive Place where
  | drive (remainder : List Char)
  | queue (remainder : List Char)
  | metric
  deriving DecidableEq, Repr

def place (key : String) : Place :=
  match drivePrefix.isPrefixOf? key.toList with
  | some remainder => .drive remainder
  | none =>
      match queuePrefix.isPrefixOf? key.toList with
      | some remainder => .queue remainder
      | none => .metric

namespace Statistics

/-- The first key of a drive names the drive, up to its first hyphen. -/
def driveEntry (stats : Statistics numbers) (remainder : List Char) (entry : Entry) :
    Option (Except Error (Statistics numbers)) :=
  let drive : Option (Drive numbers) := match stats.drive with
    | some drive => some drive
    | none => (splitOnce '-' remainder).map fun split =>
        ⟨String.ofList split.1, Struct.default numbers⟩
  match drive with
  | none => none
  | some drive =>
      match rsplitOnce '-' entry.1.toList with
      | none => none
      | some split => some ((stored numbers DriveStats (String.ofList split.2) entry).map
          fun written => { stats with drive := some ⟨drive.path, assign drive.stats written⟩ })

/-- The key of a queue names it up to its last hyphen. -/
def queueEntry (stats : Statistics numbers) (remainder : List Char) (entry : Entry) :
    Option (Except Error (Statistics numbers)) :=
  match rsplitOnce '-' remainder with
  | none => none
  | some split =>
      let queueName := String.ofList split.1
      let queue := (stats.queues queueName).getD (Struct.default numbers)
      some ((stored numbers Queue (String.ofList split.2) entry).map fun written =>
        { stats with queues := Function.update stats.queues queueName (some (assign queue written)) })

def metricEntry (stats : Statistics numbers) (entry : Entry) : Except Error (Statistics numbers) :=
  (stored numbers Metric entry.1 entry).map fun written =>
    { stats with metrics := assign stats.metrics written }

def step (stats : Statistics numbers) (entry : Entry) :
    Option (Except Error (Statistics numbers)) :=
  match place entry.1 with
  | .drive remainder => stats.driveEntry remainder entry
  | .queue remainder => stats.queueEntry remainder entry
  | .metric => some (stats.metricEntry entry)

def run (stats : Statistics numbers) : List Entry → Option (Except Error (Statistics numbers))
  | [] => some (.ok stats)
  | entry :: entries =>
      match stats.step entry with
      | none => none
      | some (.error error) => some (.error error)
      | some (.ok next) => next.run entries

end Statistics

/-- `parse_statistics`, for the order in which the map is iterated. -/
def parseStatistics (numbers : Numbers) (order : List Entry) :
    Option (Except Error (Statistics numbers)) :=
  (Statistics.default numbers).run order

/-- `RawStatistics`: a map from keys to values, iterated in any order. -/
structure RawStatistics where
  entries : List Entry
  distinct : (entries.map Prod.fst).Nodup

def RawStatistics.Iterated (raw : RawStatistics) (order : List Entry) : Prop :=
  order.Perm raw.entries

theorem RawStatistics.eq_of_key {raw : RawStatistics} {first second : Entry}
    (present : first ∈ raw.entries) (alsoPresent : second ∈ raw.entries)
    (same : first.1 = second.1) : first = second :=
  List.inj_on_of_nodup_map raw.distinct present alsoPresent same

end TrogonEventStore.Stats
