import ClientV2.CallOptions
import ClientV2.Legacy
import ClientV2.Handles
import ClientV2.Navigation
import ClientV2.Operations
import ClientV2.Session
import ClientV2.Translation
