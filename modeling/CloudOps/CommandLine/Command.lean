import CloudOps.CommandLine.Reading
import CloudOps.Movie.Lookup
import CloudOps.Policy
import CloudOps.Settings.Client

/-!
# The commands and their options

* `Command`: the eight commands, with their names and parameters.
* `ListBucketsOptions` and the records after it: what the user asked of a command.
* `Invocation`: a command with its options; `Invocation.parse` reads it from a command line.
-/

namespace CloudOps

/-- A command. -/
inductive Command
  | listBuckets
  | listObjects
  | deleteBucket
  | setBucketPolicy
  | uploadFile
  | readItem
  | listParameterGroups
  | describeClusters
  deriving DecidableEq, Repr

namespace Command

/-- Every command. -/
def all : List Command :=
  [listBuckets, listObjects, deleteBucket, setBucketPolicy, uploadFile, readItem,
    listParameterGroups, describeClusters]

/-- The name of a command. -/
def name : Command → String
  | listBuckets => "list_buckets"
  | listObjects => "list_objects"
  | deleteBucket => "delete_bucket"
  | setBucketPolicy => "set_bucket_policy"
  | uploadFile => "upload_stream"
  | readItem => "read_item"
  | listParameterGroups => "list_parameter_groups"
  | describeClusters => "describe_clusters"

/-- The command of a name. -/
def ofName? (name : String) : Option Command := all.find? fun command => command.name = name

/-- The parameters that all commands have. -/
def sharedParameters : List Parameter := [.help, .region, .profile, .endpointUrl, .maxWaitSecs]

/-- The parameters of one command alone, the operand last. -/
def ownParameters : Command → List Parameter
  | listBuckets => []
  | listObjects => [.bucket, .verbose]
  | deleteBucket => [.bucket, .empty]
  | setBucketPolicy => [.directoryAdmin, .accountId, .bucketOperand]
  | uploadFile => [.bucket, .key, .file]
  | readItem => [.table, .year, .title]
  | listParameterGroups => [.verbose]
  | describeClusters => [.verbose]

/-- The parameters of a command. -/
def parameters (command : Command) : List Parameter := sharedParameters ++ command.ownParameters

end Command

/-! ## Options -/

/-- What the arguments say about the services. -/
def Arguments.client (arguments : Arguments) : ClientSettings :=
  ⟨arguments.value? .region, arguments.value? .profile, arguments.value? .endpointUrl,
    (arguments.value? .maxWaitSecs).getD defaultMaxWait⟩

/-- Options of the list of buckets. -/
structure ListBucketsOptions where
  client : ClientSettings
  deriving DecidableEq, Repr

/-- Options of the list of objects. -/
structure ListObjectsOptions where
  client : ClientSettings
  bucket : String
  verbose : Bool
  deriving DecidableEq, Repr

/-- Options for deleting a bucket. -/
structure DeleteBucketOptions where
  client : ClientSettings
  bucket : String
  /-- Delete the objects first. -/
  empty : Bool
  deriving DecidableEq, Repr

/-- Options for giving a bucket a policy. -/
structure SetBucketPolicyOptions where
  client : ClientSettings
  bucket : String
  /-- Full access for an account to its directory bucket, in place of anonymous reading. -/
  directoryAdmin : Bool
  accountId : Option String
  deriving DecidableEq, Repr

/-- Options for storing a file. -/
structure UploadFileOptions where
  client : ClientSettings
  bucket : String
  key : String
  file : String
  deriving DecidableEq, Repr

/-- Options for looking up a movie. -/
structure ReadItemOptions where
  client : ClientSettings
  table : String
  year : Int32
  title : String
  deriving DecidableEq, Repr

/-- Options of the lists of a catalogue. -/
structure CatalogOptions where
  client : ClientSettings
  verbose : Bool
  deriving DecidableEq, Repr

/-- The year that is looked up by default. -/
def defaultYear : Int32 := 2015

/-- The title that is looked up by default. -/
def defaultTitle : String := "The Big New Movie"

/-- The policy that is asked for. Only the one for a directory bucket depends on the region. -/
def SetBucketPolicyOptions.policy (options : SetBucketPolicyOptions) (region : String) : Policy :=
  match options.accountId, options.directoryAdmin with
  | some account, true => .directoryBucketAdmin region account options.bucket
  | _, _ => .readOnlyAnonymous options.bucket

/-- A command with its options. -/
inductive Invocation
  | listBuckets (options : ListBucketsOptions)
  | listObjects (options : ListObjectsOptions)
  | deleteBucket (options : DeleteBucketOptions)
  | setBucketPolicy (options : SetBucketPolicyOptions)
  | uploadFile (options : UploadFileOptions)
  | readItem (options : ReadItemOptions)
  | listParameterGroups (options : CatalogOptions)
  | describeClusters (options : CatalogOptions)
  deriving DecidableEq, Repr

namespace Invocation

/-- The command with the options that complete arguments give. -/
def ofArguments (a : Arguments) : Command → Invocation
  | .listBuckets => .listBuckets ⟨a.client⟩
  | .listObjects => .listObjects ⟨a.client, (a.value? .bucket).getD "", a.has .verbose⟩
  | .deleteBucket => .deleteBucket ⟨a.client, (a.value? .bucket).getD "", a.has .empty⟩
  | .setBucketPolicy =>
    .setBucketPolicy ⟨a.client, (a.value? .bucketOperand).getD "", a.has .directoryAdmin,
      a.value? .accountId⟩
  | .uploadFile =>
    .uploadFile ⟨a.client, (a.value? .bucket).getD "", (a.value? .key).getD "",
      (a.value? .file).getD ""⟩
  | .readItem =>
    .readItem ⟨a.client, (a.value? .table).getD moviesTable, (a.value? .year).getD defaultYear,
      (a.value? .title).getD defaultTitle⟩
  | .listParameterGroups => .listParameterGroups ⟨a.client, a.has .verbose⟩
  | .describeClusters => .describeClusters ⟨a.client, a.has .verbose⟩

/-- The command with the options of a command line. -/
def parse (command : Command) (texts : List String) : Except UsageError Invocation :=
  (Arguments.parse command.parameters texts).map fun arguments => ofArguments arguments command

/-- What the options say about the services. -/
def client : Invocation → ClientSettings
  | listBuckets options => options.client
  | listObjects options => options.client
  | deleteBucket options => options.client
  | setBucketPolicy options => options.client
  | uploadFile options => options.client
  | readItem options => options.client
  | listParameterGroups options => options.client
  | describeClusters options => options.client

end Invocation

end CloudOps
